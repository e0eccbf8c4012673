import BuildRepair.Decimal.Shortest
import BuildRepair.Proofs.Text.Digits

/-
  The form in which doubles are written: a `Numeral` is a whole part without useless zeros in front,
  and digits after a point or an exponent or both. Every finite double is written as a numeral with
  a sign (`textWith_finite`), since the shortest digits of a number that is not zero are not zero
  (`shortest_digits`).
-/

namespace BuildRepair

open Text (Digits digits_natText digits_replicate natText natText_ne_nil)

theorem Binary64.tenPow_eq (n : Nat) : tenPow n = 10 ^ n := rfl

/-- Digits that an integer may be written with. -/
structure IsWhole (s : List Char) : Prop where
  digits : Digits s
  ne_nil : s ≠ []
  leading : s.head? = some '0' → s = ['0']

theorem isWhole_natText (n : Nat) : IsWhole (natText n) := by
  refine ⟨digits_natText n, natText_ne_nil n, ?_⟩
  intro h
  by_cases hn : n = 0
  · rw [hn]
    rfl
  · exact absurd h (Text.natText_head hn)

theorem isWhole_digit {c : Char} (h : Text.isAsciiDigit c = true) : IsWhole [c] where
  digits := by simpa [Digits] using h
  ne_nil := List.cons_ne_nil _ _
  leading := by simp

theorem IsWhole.take {s : List Char} (h : IsWhole s) {k : Nat} (hk : 0 < k) (hs : k < s.length) :
    IsWhole (s.take k) := by
  refine ⟨h.digits.subset fun _ => List.mem_of_mem_take, ?_, ?_⟩
  · rw [Ne, List.take_eq_nil_iff, not_or]
    exact ⟨by omega, h.ne_nil⟩
  · rw [List.head?_take, if_neg (by omega)]
    intro hzero
    rw [h.leading hzero, List.length_singleton] at hs
    omega

theorem IsWhole.append_zeros {s : List Char} (h : IsWhole s) {k : Nat} (hk : s = ['0'] → k = 0) :
    IsWhole (s ++ List.replicate k '0') := by
  refine ⟨h.digits.append (digits_replicate k), List.append_ne_nil_of_left_ne_nil h.ne_nil _, ?_⟩
  rw [List.head?_append, List.head?_eq_some_head h.ne_nil, Option.some_or,
    ← List.head?_eq_some_head h.ne_nil]
  intro hzero
  have hs := h.leading hzero
  rw [hk hs, hs]
  rfl

/-- The parts of a number in writing that is not an integer. -/
structure Numeral where
  whole : List Char
  /-- The digits after the point; without any there is no point. -/
  fraction : List Char
  /-- Whether the exponent is negative, and its digits. -/
  exponent : Option (Bool × List Char)
  isWhole : IsWhole whole
  fraction_digits : Digits fraction
  exponent_digits : ∀ e ∈ exponent, Digits e.2 ∧ e.2 ≠ []
  noInteger : fraction ≠ [] ∨ exponent.isSome

namespace Numeral

/-- A fraction in writing. -/
def fractionText (n : Numeral) : List Char := if n.fraction = [] then [] else '.' :: n.fraction

/-- An exponent in writing. -/
def exponentText (n : Numeral) : List Char :=
  match n.exponent with
  | none => []
  | some (negative, digits) => 'e' :: (if negative then '-' else '+') :: digits

/-- A numeral in writing. -/
def text (n : Numeral) : List Char := n.whole ++ (n.fractionText ++ n.exponentText)

/-- A numeral with a point. -/
def ofPoint (whole fraction : List Char) (hw : IsWhole whole) (hf : Digits fraction)
    (hne : fraction ≠ []) : Numeral :=
  ⟨whole, fraction, none, hw, hf, by simp, .inl hne⟩

theorem text_ofPoint {whole fraction : List Char} {hw : IsWhole whole} {hf : Digits fraction}
    {hne : fraction ≠ []} :
    (ofPoint whole fraction hw hf hne).text = whole ++ '.' :: fraction := by
  simp [ofPoint, text, fractionText, exponentText, hne]

theorem mem_text {n : Numeral} {c : Char} (h : c ∈ n.text) :
    Text.isAsciiDigit c = true ∨ c ∈ ['.', 'e', '-', '+'] := by
  rw [text, List.mem_append, List.mem_append] at h
  rcases h with h | h | h
  · exact .inl (n.isWhole.digits c h)
  · unfold fractionText at h
    split at h
    · cases h
    · rcases List.mem_cons.mp h with rfl | h
      · exact .inr (by decide)
      · exact .inl (n.fraction_digits c h)
  · unfold exponentText at h
    split at h
    · cases h
    · next negative digits he =>
      rcases List.mem_cons.mp h with rfl | h
      · exact .inr (by decide)
      · rcases List.mem_cons.mp h with rfl | h
        · exact .inr (by cases negative <;> decide)
        · exact .inl ((n.exponent_digits _ he).1 c h)

end Numeral

namespace Binary64

variable {m : Nat} {e k : Int} {d : Decimal} {digits : Nat} {i : Interval}

/-! ## The shortest digits -/

/-- An interval that does not reach zero. -/
def Interval.Positive (i : Interval) : Prop := 0 < i.low ∧ 0 < i.high

theorem interval_positive (hm : m ≠ 0) : (interval m e).Positive := by
  have hscale : 0 < (scale 1 4 (-e)).1 := by
    unfold scale twoPow
    split
    · exact Nat.one_pos
    · exact Nat.mul_pos Nat.one_pos (Nat.pow_pos (by omega))
  unfold interval
  dsimp only
  refine ⟨Nat.mul_pos ?_ hscale, Nat.mul_pos (by omega) hscale⟩
  split <;> omega

theorem reads_ne_zero (hi : i.Positive) (h : i.reads digits k = true) : digits ≠ 0 := by
  rintro rfl
  unfold Interval.reads at h
  dsimp only at h
  generalize hunit : (if 0 ≤ k then 1 else tenPow (-k).toNat) = unit at h
  have hpos : 0 < unit := by
    rw [← hunit]
    split
    · exact Nat.one_pos
    · exact Nat.pow_pos (by decide)
  have hlow := Nat.mul_pos hi.1 hpos
  have hhigh := Nat.mul_pos hi.2 hpos
  simp only [Nat.zero_mul, ite_self, Bool.or_eq_true, Bool.and_eq_true, decide_eq_true_eq,
    beq_iff_eq] at h
  omega

theorem onGrid_ne_zero (hi : i.Positive) (h : i.onGrid k = some digits) : digits ≠ 0 := by
  unfold Interval.onGrid at h
  dsimp only at h
  generalize (if 0 ≤ k then i.value else i.value * tenPow (-k).toNat) = num at h
  generalize (if 0 ≤ k then i.den * tenPow k.toNat else i.den) = den at h
  generalize num / den = below at h
  split at h
  · next hbelow _ =>
    have hne := reads_ne_zero hi hbelow
    split at h
    · cases h
      exact hne
    · split at h <;> cases h <;> omega
  · next hbelow _ =>
    cases h
    exact reads_ne_zero hi hbelow
  · cases h
    exact Nat.succ_ne_zero _
  · cases h

theorem normal_digits (fuel : Nat) (hd : d.digits ≠ 0) : (d.normal fuel).digits ≠ 0 := by
  induction fuel generalizing d with
  | zero => exact hd
  | succ fuel ih =>
    unfold Decimal.normal
    split
    · exact ih (by dsimp only; omega)
    · exact hd

/-- The decimal of a number that is not zero has digits; if no grid had any, it would be a plain
zero. -/
theorem shortest_digits (e : Int) (hm : m ≠ 0) :
    (shortest m e).digits ≠ 0 ∨ shortest m e = ⟨0, 0⟩ := by
  unfold shortest
  dsimp only
  generalize hfound : (List.range 17).findSome? _ = found
  cases found with
  | none => exact .inr rfl
  | some d =>
    obtain ⟨n, -, hn⟩ := List.exists_of_findSome?_eq_some hfound
    obtain ⟨digits, hdigits, rfl⟩ := Option.map_eq_some_iff.mp hn
    exact .inl (normal_digits 20 (onGrid_ne_zero (interval_positive hm) hdigits))

/-! ## The forms -/

theorem toList_exponentText (e : Int) : ∃ (negative : Bool) (digits : List Char),
    Digits digits ∧ digits ≠ [] ∧
    (exponentText e).toList = 'e' :: (if negative then '-' else '+') :: digits := by
  have hrepr : (toString e.natAbs).toList = natText e.natAbs := by
    simp [natText]
  have hdigits := digits_natText e.natAbs
  have hne := natText_ne_nil e.natAbs
  refine ⟨decide (e < 0),
    if e.natAbs < 10 then '0' :: natText e.natAbs else natText e.natAbs, ?_, ?_, ?_⟩
  · split
    · exact List.forall_mem_cons.mpr ⟨rfl, hdigits⟩
    · exact hdigits
  · split
    · exact List.cons_ne_nil _ _
    · exact hne
  · unfold exponentText
    dsimp only
    rw [String.toList_append]
    split <;> split <;> simp_all

/-- A decimal with digits, and a plain zero, are written as numerals. -/
theorem Decimal.text_numeral (hd : d.digits ≠ 0 ∨ d = ⟨0, 0⟩) :
    ∃ n : Numeral, d.text.toList = n.text := by
  have hs : IsWhole (Nat.toDigits 10 d.digits) := isWhole_natText d.digits
  have hzero : Nat.toDigits 10 d.digits = ['0'] → d.exponent = 0 := by
    intro h
    rcases hd with hd | rfl
    · exact absurd (congrArg List.head? h) (Text.natText_head hd)
    · rfl
  unfold Decimal.text
  dsimp only
  generalize Nat.toDigits 10 d.digits = s at *
  generalize hpoint : (s.length + d.exponent : Int) = point
  split
  · split
    · -- the point stands in front of all digits
      refine ⟨.ofPoint ['0'] (List.replicate (-point).toNat '0' ++ s) (isWhole_digit rfl)
        ((digits_replicate _).append hs.digits) (by simp [hs.ne_nil]), ?_⟩
      rw [Numeral.text_ofPoint]
      simp
    · split
      · -- behind all of them
        have hk : s = ['0'] → point.toNat - s.length = 0 := by
          intro h
          have := hzero h
          omega
        refine ⟨.ofPoint _ ['0'] (hs.append_zeros hk) (digits_replicate 1) (by simp), ?_⟩
        rw [Numeral.text_ofPoint]
        simp
      · -- between two of them
        have hdrop : s.drop point.toNat ≠ [] := by
          rw [Ne, List.drop_eq_nil_iff]
          omega
        have hw : IsWhole (s.take point.toNat) := hs.take (by omega) (by omega)
        refine ⟨.ofPoint _ _ hw (hs.digits.subset fun _ => List.mem_of_mem_drop) hdrop, ?_⟩
        rw [Numeral.text_ofPoint]
        simp
  · obtain ⟨negative, digits, hexp, hexpne, htext⟩ := toList_exponentText (point - 1)
    have he : ∀ x ∈ some (negative, digits), Digits x.2 ∧ x.2 ≠ [] := by
      simp [hexp, hexpne]
    split
    · exact absurd rfl hs.ne_nil
    · next _ c =>
      refine ⟨⟨[c], [], some (negative, digits), hs, by simp [Digits], he, .inr rfl⟩, ?_⟩
      simp [Numeral.text, Numeral.fractionText, Numeral.exponentText, htext]
    · next _ c fraction hfraction =>
      have hf : fraction ≠ [] := hfraction
      have hc := isWhole_digit (hs.digits c (List.mem_cons_self ..))
      refine ⟨⟨[c], fraction, some (negative, digits), hc,
        hs.digits.subset fun _ => List.mem_cons_of_mem _, he, .inl hf⟩, ?_⟩
      simp [Numeral.text, Numeral.fractionText, Numeral.exponentText, htext, hf]

/-- The text of a finite double is a numeral with a sign. -/
theorem textWith_finite (infinity notANumber : String) (negative : Bool) (m : Nat) (e : Int) :
    ∃ n : Numeral, (textWith infinity notANumber (.finite negative m e)).toList =
      (if negative then ['-'] else []) ++ n.text := by
  have htext : ∃ n : Numeral, (if m = 0 then "0.0" else (shortest m e).text).toList = n.text := by
    split
    · refine ⟨.ofPoint ['0'] ['0'] (isWhole_digit rfl) (digits_replicate 1) (by simp), ?_⟩
      rw [Numeral.text_ofPoint]
      rfl
    · next hm => exact Decimal.text_numeral (shortest_digits e hm)
  obtain ⟨n, hn⟩ := htext
  refine ⟨n, ?_⟩
  unfold textWith
  rw [String.toList_append, hn]
  cases negative <;> rfl

end Binary64
end BuildRepair
