import BuildRepair.Text.Number
import Mathlib.Algebra.Group.Nat.Defs

/-
  Decimal and hexadecimal digits in writing. A natural is written with digits only, with a zero in
  front only if it is zero, and the digits denote it (`decimalValue_natText`); padded with zeros
  they still do (`decimalValue_paddedText`). Digits in front of something else are taken off whole
  (`takeWhile_digits`, `dropWhile_digits`).
-/

namespace BuildRepair.Text

variable {c : Char} {digits rest : List Char} {n width : Nat}

/-! ## Digits -/

theorem isAsciiDigit_iff : isAsciiDigit c = true ↔ 48 ≤ c.toNat ∧ c.toNat ≤ 57 := by
  unfold isAsciiDigit
  rw [Bool.and_eq_true, decide_eq_true_eq, decide_eq_true_eq, Char.le_def, Char.le_def,
    UInt32.le_iff_toNat_le, UInt32.le_iff_toNat_le]
  exact Iff.rfl

/-- A text of decimal digits. -/
def Digits (s : List Char) : Prop := ∀ c ∈ s, isAsciiDigit c = true

theorem Digits.append (hs : Digits digits) (hr : Digits rest) : Digits (digits ++ rest) := by
  intro c hc
  rcases List.mem_append.mp hc with hc | hc
  · exact hs c hc
  · exact hr c hc

theorem Digits.subset (hs : Digits digits) (h : ∀ c ∈ rest, c ∈ digits) : Digits rest :=
  fun c hc => hs c (h c hc)

theorem digits_replicate (n : Nat) : Digits (List.replicate n '0') := by
  intro c hc
  rw [List.eq_of_mem_replicate hc]
  rfl

theorem digits_takeWhile (s : List Char) : Digits (s.takeWhile isAsciiDigit) :=
  List.all_eq_true.mp List.all_takeWhile

/-- A text that does not go on with a digit. -/
def NoDigit (s : List Char) : Prop := ∀ c ∈ s.head?, isAsciiDigit c = false

theorem takeWhile_digits (hd : Digits digits) (hr : NoDigit rest) :
    (digits ++ rest).takeWhile isAsciiDigit = digits := by
  rw [List.takeWhile_append_of_pos hd]
  cases rest with
  | nil => rw [List.takeWhile_nil, List.append_nil]
  | cons c rest => rw [List.takeWhile_cons_of_neg (by simp [hr c rfl]), List.append_nil]

theorem dropWhile_digits (hd : Digits digits) (hr : NoDigit rest) :
    (digits ++ rest).dropWhile isAsciiDigit = rest := by
  rw [List.dropWhile_append_of_pos hd]
  cases rest with
  | nil => rfl
  | cons c rest => rw [List.dropWhile_cons_of_neg (by simp [hr c rfl])]

/-! ## Naturals in writing -/

theorem digits_natText (n : Nat) : Digits (natText n) := by
  intro c hc
  have hd : c.isDigit = true := Nat.isDigit_of_mem_toDigits (by decide) (by decide) hc
  rw [isAsciiDigit_iff]
  simpa [Char.isDigit, UInt32.le_iff_toNat_le] using hd

theorem toList_toString (n : Int) : (toString n).toList = intText n := by
  unfold intText natText
  cases n with
  | ofNat m => simp [Int.repr]
  | negSucc m => simp [Int.repr]

theorem natText_ne_nil (n : Nat) : natText n ≠ [] := Nat.toDigits_ne_nil

theorem decimalValue_eq (digits : List Char) :
    decimalValue digits = Nat.ofDigitChars 10 digits 0 :=
  Nat.ofDigitChars_eq_foldl.symm

theorem decimalValue_natText (n : Nat) : decimalValue (natText n) = n := by
  rw [decimalValue_eq]
  exact Nat.ofDigitChars_ten_toDigits

theorem length_natText_le (hw : 0 < width) : (natText n).length ≤ width ↔ n < 10 ^ width :=
  Nat.length_toDigits_le_iff (by decide) hw

theorem decimalValue_lt (hd : Digits digits) : decimalValue digits < 10 ^ digits.length := by
  have hbound (init : Nat) : Nat.ofDigitChars 10 digits init < 10 ^ digits.length * (init + 1) := by
    induction digits generalizing init with
    | nil => simp
    | cons c digits ih =>
      obtain ⟨hc, hd⟩ := List.forall_mem_cons.mp hd
      have hvalue : c.toNat - '0'.toNat < 10 := by
        have := isAsciiDigit_iff.mp hc
        have : '0'.toNat = 48 := rfl
        omega
      rw [Nat.ofDigitChars_cons, List.length_cons, Nat.pow_succ, Nat.mul_assoc]
      exact Nat.lt_of_lt_of_le (ih hd _) (Nat.mul_le_mul_left _ (by omega))
  rw [decimalValue_eq]
  simpa using hbound 0

/-- Only zero is written with a zero in front. -/
theorem natText_head (hn : n ≠ 0) : (natText n).head? ≠ some '0' := by
  have hdigit : ∀ k < 10, k ≠ 0 → Nat.digitChar k ≠ '0' := by decide
  unfold natText
  induction n using Nat.strongRecOn with
  | _ n ih =>
    rcases Nat.lt_or_ge n 10 with h | h
    · rw [Nat.toDigits_of_lt_base h]
      simpa using hdigit n h hn
    · rw [Nat.toDigits_of_base_le (by decide) h, List.head?_append]
      have hne : (Nat.toDigits 10 (n / 10)).head? ≠ none := by simp
      obtain ⟨d, hd⟩ := Option.ne_none_iff_exists'.mp hne
      rw [hd, Option.some_or, ← hd]
      exact ih (n / 10) (by omega) (by omega)

/-! ## Padded naturals -/

theorem digits_paddedText (width n : Nat) : Digits (paddedText width n) :=
  (digits_replicate _).append (digits_natText n)

theorem decimalValue_paddedText (width n : Nat) : decimalValue (paddedText width n) = n := by
  unfold paddedText
  rw [decimalValue_eq, Nat.ofDigitChars_append, Nat.ofDigitChars_replicate_zero, Nat.mul_zero]
  exact Nat.ofDigitChars_ten_toDigits

theorem length_paddedText (hw : 0 < width) (hn : n < 10 ^ width) :
    (paddedText width n).length = width := by
  have := (length_natText_le hw).mpr hn
  unfold paddedText
  rw [List.length_append, List.length_replicate]
  omega

/-! ## Hexadecimal digits -/

theorem hexValue?_hexDigit (hn : n < 16) : hexValue? (hexDigit n) = some n := by
  have h : ∀ k < 16, hexValue? (hexDigit k) = some k := by decide
  exact h n hn

theorem hexText_four (n : Nat) : hexText 4 n =
    [hexDigit (n / 4096 % 16), hexDigit (n / 256 % 16), hexDigit (n / 16 % 16),
      hexDigit (n % 16)] := by
  simp [hexText, Nat.div_div_eq_div_mul]

end BuildRepair.Text
