import BuildRepair.Json.Printer
import BuildRepair.Json.Reader
import BuildRepair.Proofs.Decimal.Writing

/-
  Numbers in writing are read back. An integer that is not too long is read as itself
  (`readAtom_intText`), a numeral as the double nearest to it (`readNumber_numeral`), so the text of
  a double is read as a double (`readAtom_real`). All of this holds in front of anything that does
  not go on with the number.
-/

namespace BuildRepair.Json

open Text (Digits NoDigit isAsciiDigit)

variable {ε : Type} {whole digits rest s : List Char} {negative : Bool} {c : Char} {n : Int}

/-- A text that does not go on with a number. -/
def NoNumber (s : List Char) : Prop :=
  ∀ c ∈ s.head?, isAsciiDigit c = false ∧ c ≠ '.' ∧ c ≠ 'e' ∧ c ≠ 'E'

theorem NoNumber.noDigit (h : NoNumber s) : NoDigit s := fun c hc => (h c hc).1

theorem NoNumber.exponent? (h : NoNumber s) : exponent? s = none := by
  cases s with
  | nil => rfl
  | cons c s =>
    obtain ⟨-, -, he, hE⟩ := h c rfl
    simp [Json.exponent?, he, hE]

theorem NoNumber.fraction (h : NoNumber s) : fraction s = ([], s) := by
  cases s with
  | nil => rfl
  | cons c s =>
    have hpoint := (h c rfl).2.1
    simp [Json.fraction, hpoint]

/-! ## Signs and whole parts -/

/-- A minus sign where a number has one. -/
def signText (negative : Bool) : List Char := if negative then ['-'] else []

/-- The digits of a whole part are taken off. -/
theorem readNumber_whole (hw : IsWhole whole) (hr : NoDigit rest) :
    readNumber (ε := ε) (signText negative ++ (whole ++ rest)) =
      readNumberRest negative whole rest := by
  obtain ⟨c, digits, rfl⟩ := List.exists_cons_of_ne_nil hw.ne_nil
  obtain ⟨hc, hdigits⟩ := List.forall_mem_cons.mp hw.digits
  have hminus : c ≠ '-' := by
    rintro rfl
    cases hc
  have htake := Text.takeWhile_digits hdigits hr
  have hdrop := Text.dropWhile_digits hdigits hr
  by_cases hzero : c = '0'
  · subst hzero
    obtain rfl : digits = [] := (List.cons.inj (hw.leading rfl)).2
    cases negative <;> rfl
  · cases negative <;>
      simp [readNumber, signText, hminus, hc, htake, hdrop]

/-- A constant begins with a letter, or with a minus sign and a letter. -/
theorem readAtom_whole (hw : IsWhole whole) (hr : NoDigit rest) :
    readAtom (ε := ε) (signText negative ++ (whole ++ rest)) =
      readNumberRest negative whole rest := by
  rw [← readNumber_whole hw hr]
  obtain ⟨c, digits, rfl⟩ := List.exists_cons_of_ne_nil hw.ne_nil
  have hc : isAsciiDigit c = true := hw.digits c (List.mem_cons_self ..)
  have hne (d : Char) (hd : isAsciiDigit d = false) : c ≠ d := by
    rintro rfl
    rw [hc] at hd
    cases hd
  have hn := hne 'n' rfl
  have ht := hne 't' rfl
  have hf := hne 'f' rfl
  have hN := hne 'N' rfl
  have hI := hne 'I' rfl
  have hminus := hne '-' rfl
  cases negative with
  | true => simp [signText, readAtom, hI]
  | false => simp [signText, readAtom, hn, ht, hf, hN, hI, hminus]

/-! ## Integers -/

theorem readNumberRest_integer (hs : NoNumber rest) (hd : digits.length ≤ integerDigitLimit) :
    readNumberRest (ε := ε) negative digits rest =
      .ok (.int (if negative then -(Text.decimalValue digits : Int) else Text.decimalValue digits),
        rest) := by
  unfold readNumberRest
  rw [hs.fraction]
  dsimp only
  rw [hs.exponent?]
  exact if_neg (Nat.not_lt.mpr hd)

theorem intText_eq (n : Int) :
    Text.intText n = signText (decide (n < 0)) ++ Text.natText n.natAbs := by
  unfold Text.intText signText
  simp only [decide_eq_true_eq]
  split <;> rfl

/-- An integer that is not too long is read back from its writing. -/
theorem readAtom_intText (hn : n.natAbs < Binary64.tenPow integerDigitLimit) (hr : NoNumber rest) :
    readAtom (ε := ε) (Text.intText n ++ rest) = .ok (.int n, rest) := by
  have hlimit : 0 < integerDigitLimit := by decide
  rw [Binary64.tenPow_eq] at hn
  have hlen := (Text.length_natText_le hlimit).mpr hn
  rw [intText_eq, List.append_assoc, readAtom_whole (isWhole_natText _) hr.noDigit,
    readNumberRest_integer hr hlen, Text.decimalValue_natText]
  congr 3
  simp only [decide_eq_true_eq]
  split <;> omega

/-! ## Doubles -/

/-- The exponent that a numeral has, zero if none is written. -/
def exponentValue (n : Numeral) : Int :=
  match n.exponent with
  | none => 0
  | some (negative, digits) =>
    if negative then -(Text.decimalValue digits : Int) else Text.decimalValue digits

/-- The double that a numeral denotes. -/
def numeralValue (negative : Bool) (n : Numeral) : Binary64 :=
  .ofDecimal negative (Text.decimalValue (n.whole ++ n.fraction))
    (exponentValue n - n.fraction.length)

theorem exponent?_exponentText (n : Numeral) (hr : NoNumber rest) :
    (exponent? (n.exponentText ++ rest)) =
      if n.exponent.isSome then some (exponentValue n, rest) else none := by
  unfold Numeral.exponentText exponentValue
  split
  · next he =>
    rw [he]
    exact hr.exponent?
  · next negative digits he =>
    obtain ⟨hdigits, hne⟩ := n.exponent_digits _ he
    have htake := Text.takeWhile_digits hdigits hr.noDigit
    have hdrop := Text.dropWhile_digits hdigits hr.noDigit
    rw [he]
    cases negative <;> simp [exponent?, htake, hdrop]

theorem noDigit_exponentText (n : Numeral) (hr : NoNumber rest) :
    NoDigit (n.exponentText ++ rest) := by
  unfold Numeral.exponentText
  split
  · exact hr.noDigit
  · intro c hc
    cases hc
    rfl

theorem fraction_fractionText (n : Numeral) (hr : NoNumber rest) :
    fraction (n.fractionText ++ (n.exponentText ++ rest)) =
      (n.fraction, n.exponentText ++ rest) := by
  unfold Numeral.fractionText
  split
  · next hf =>
    rw [hf]
    unfold Numeral.exponentText
    split
    · exact hr.fraction
    · rfl
  · next hf =>
    have hr := noDigit_exponentText n hr
    have htake := Text.takeWhile_digits n.fraction_digits hr
    have hdrop := Text.dropWhile_digits n.fraction_digits hr
    simp [fraction, htake, hdrop]

/-- A numeral is read as the double that it denotes. -/
theorem readNumberRest_numeral (n : Numeral) (hr : NoNumber rest) :
    readNumberRest (ε := ε) negative n.whole (n.fractionText ++ (n.exponentText ++ rest)) =
      .ok (.real (numeralValue negative n), rest) := by
  have hexp := exponent?_exponentText n hr
  have hvalue : n.exponent.isSome = false → exponentValue n = 0 ∧ n.exponentText = [] := by
    intro h
    rw [Option.isSome_eq_false_iff, Option.isNone_iff_eq_none] at h
    unfold exponentValue Numeral.exponentText
    rw [h]
    exact ⟨rfl, rfl⟩
  unfold readNumberRest
  rw [fraction_fractionText n hr]
  dsimp only
  rw [hexp]
  cases hsome : n.exponent.isSome with
  | true =>
    rw [if_pos rfl]
    unfold numeralValue
    cases n.fraction <;> rfl
  | false =>
    obtain ⟨hzero, htext⟩ := hvalue hsome
    have hne : n.fraction ≠ [] := by simpa [hsome] using n.noInteger
    simp [numeralValue, hzero, htext, hne]

/-- A numeral with a sign, in front of anything that does not go on with it. -/
theorem readAtom_numeral (negative : Bool) (n : Numeral) (hr : NoNumber rest) :
    readAtom (ε := ε) (signText negative ++ n.text ++ rest) =
      .ok (.real (numeralValue negative n), rest) := by
  have hd : NoDigit (n.fractionText ++ (n.exponentText ++ rest)) := by
    unfold Numeral.fractionText
    split
    · exact noDigit_exponentText n hr
    · intro c hc
      cases hc
      rfl
  unfold Numeral.text
  rw [← readNumberRest_numeral n hr, ← readAtom_whole n.isWhole hd]
  simp only [List.append_assoc]

/-- The text of a double is read as a double. -/
theorem readAtom_real (x : Binary64) : ∃ y : Binary64, ∀ (ε : Type) (rest : List Char),
    NoNumber rest → readAtom (ε := ε) (atomText (.real x) ++ rest) = .ok (.real y, rest) := by
  cases x with
  | finite negative m e =>
    obtain ⟨n, hn⟩ := Binary64.textWith_finite "Infinity" "NaN" negative m e
    refine ⟨numeralValue negative n, ?_⟩
    intro ε rest hr
    rw [atomText, hn]
    exact readAtom_numeral negative n hr
  | infinite negative =>
    refine ⟨.infinite negative, ?_⟩
    intro ε rest hr
    cases negative <;> rfl
  | nan => exact ⟨.nan, fun _ _ _ => rfl⟩

end BuildRepair.Json
