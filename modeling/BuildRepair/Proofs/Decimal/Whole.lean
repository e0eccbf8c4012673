import BuildRepair.Decimal.Binary64
import Mathlib.Tactic.Ring

/-
  Doubles that are integers. `Denotes x n`: the double `x` is the integer `n`. A quotient that is an
  integer below `2 ^ 53` is rounded to that integer (`denotes_ofRatio`), so such integers are doubles
  (`denotes_ofInt`), sums and multiples of them that stay below that limit are exact (`Denotes.add`,
  `Denotes.times`), and the least integer that is no less is the integer itself (`ceiling_eq`).
-/

namespace BuildRepair.Binary64

variable {x y : Binary64} {a b n : Int} {negative : Bool} {m k : Nat}

/-- A double is an integer, with an exponent that is not above zero. -/
inductive Denotes : Binary64 → Int → Prop
  | intro {negative : Bool} {m k : Nat} {n : Int} (h : signed negative m = n * twoPow k) :
      Denotes (.finite negative m (-k)) n

theorem twoPow_pos (k : Nat) : 0 < twoPow k := Nat.two_pow_pos k

theorem twoPow_zero : twoPow 0 = 1 := rfl

theorem twoPow_add (j k : Nat) : twoPow (j + k) = twoPow j * twoPow k := Nat.pow_add 2 j k

theorem signed_zero (negative : Bool) : signed negative 0 = 0 := by cases negative <;> rfl

theorem signed_mul (negative : Bool) (m k : Nat) :
    signed negative (m * k) = signed negative m * k := by
  cases negative <;> simp [signed]

theorem signed_natAbs (n : Int) : signed (decide (n < 0)) n.natAbs = n := by
  unfold signed
  split
  · next h =>
    rw [decide_eq_true_eq] at h
    omega
  · next h =>
    rw [decide_eq_true_eq] at h
    omega

/-! ## Rounding -/

theorem scale_neg (num den k : Nat) : scale num den (-k) = (num * twoPow k, den) := by
  unfold scale
  split
  · next h =>
    obtain rfl : k = 0 := by omega
    simp [twoPow]
  · rw [Int.neg_neg, Int.toNat_natCast]

theorem roundHalfEven_mul (m : Nat) {den : Nat} (hden : 0 < den) :
    roundHalfEven (m * den) den = m := by
  unfold roundHalfEven
  dsimp only
  rw [Nat.mul_div_cancel m hden, Nat.mul_mod_left, if_pos (by omega)]

theorem log2_mul_twoPow (hm : m ≠ 0) (j : Nat) : (m * twoPow j).log2 = m.log2 + j := by
  rw [Nat.log2_eq_iff (Nat.mul_ne_zero hm (twoPow_pos j).ne')]
  refine ⟨?_, ?_⟩
  · rw [Nat.pow_add]
    exact Nat.mul_le_mul_right _ (Nat.log2_self_le hm)
  · rw [Nat.add_right_comm, Nat.pow_add 2 (m.log2 + 1)]
    exact Nat.mul_lt_mul_of_pos_right Nat.lt_log2_self (twoPow_pos j)

/-- A quotient that is an integer is rounded to it. -/
theorem denotes_ofRatio (negative : Bool) (j : Nat) (hm : m < twoPow 53) :
    Denotes (ofRatio negative (m * twoPow j) (twoPow j)) (signed negative m) := by
  by_cases hzero : m = 0
  · subst hzero
    have hround : ofRatio negative (0 * twoPow j) (twoPow j) =
        .finite negative 0 (-(1074 : Nat)) := by
      unfold ofRatio
      rw [if_pos (Nat.zero_mul _)]
      rfl
    rw [hround, signed_zero]
    refine .intro ?_
    rw [signed_zero, Int.zero_mul]
  -- the mantissa fills all 53 bits
  obtain ⟨s, hs⟩ : ∃ s, m.log2 + s = 52 :=
    ⟨52 - m.log2, Nat.add_sub_of_le (Nat.lt_succ_iff.mp ((Nat.log2_lt hzero).mpr hm))⟩
  have hnum : m * twoPow j ≠ 0 := Nat.mul_ne_zero hzero (twoPow_pos j).ne'
  have hlow : max (-1074) (((m.log2 + j : Nat) : Int) - j - 53) = -((s + 1 : Nat) : Int) := by omega
  have hquotient (i : Nat) : m * twoPow j * twoPow i = m * twoPow i * twoPow j :=
    Nat.mul_right_comm ..
  have hfull : twoPow 53 ≤ m * twoPow (s + 1) := by
    have hsum : 53 = m.log2 + (s + 1) := by omega
    rw [hsum, twoPow_add]
    exact Nat.mul_le_mul_right _ (Nat.log2_self_le hzero)
  have hless : m * twoPow s < twoPow 53 := by
    have hsum : 53 = m.log2 + 1 + s := by omega
    rw [hsum, twoPow_add]
    exact Nat.mul_lt_mul_of_pos_right Nat.lt_log2_self (twoPow_pos s)
  have hround : ofRatio negative (m * twoPow j) (twoPow j) =
      .finite negative (m * twoPow s) (-s) := by
    have hden : (twoPow j).log2 = j := Nat.log2_two_pow
    have hnext : -((s + 1 : Nat) : Int) + 1 = -s := by omega
    unfold ofRatio
    rw [if_neg hnum, log2_mul_twoPow hzero, hden, hlow]
    dsimp only
    rw [scale_neg, hquotient, Nat.mul_div_cancel _ (twoPow_pos j), if_pos hfull, hnext, scale_neg,
      hquotient, roundHalfEven_mul _ (twoPow_pos j), if_neg hless.ne]
    exact if_neg (by dsimp only; omega)
  rw [hround]
  exact .intro (signed_mul ..)

/-- A multiple of a power of two is scaled back to an integer. -/
theorem denotes_ofScaled (k : Nat) (hn : n.natAbs < twoPow 53) :
    Denotes (ofScaled (n * twoPow k) (-k)) n := by
  have hsign : decide (n * twoPow k < 0) = decide (n < 0) := by
    have hpos : (0 : Int) < twoPow k := Int.natCast_pos.mpr (twoPow_pos k)
    rw [decide_eq_decide, ← not_le, ← not_le, Int.mul_nonneg_iff_of_pos_right hpos]
  have hround := denotes_ofRatio (decide (n < 0)) k hn
  rw [signed_natAbs] at hround
  have hscale : scale (n * twoPow k).natAbs 1 (- -k) = (n.natAbs * twoPow k, twoPow k) := by
    unfold scale
    rw [Int.neg_neg, if_pos (Int.natCast_nonneg k), Int.toNat_natCast, Int.natAbs_mul,
      Int.natAbs_natCast, Nat.one_mul]
  unfold ofScaled
  rw [hscale, hsign]
  exact hround

/-- An integer below the limit is a double. -/
theorem denotes_ofInt (hn : n.natAbs < twoPow 53) : Denotes (ofInt n) n := by
  have hround := denotes_ofRatio (decide (n < 0)) 0 hn
  rwa [signed_natAbs, twoPow_zero, Nat.mul_one] at hround

/-! ## Operations -/

theorem Denotes.neg (hx : Denotes x a) : Denotes x.neg (-a) := by
  cases hx with
  | @intro negative m k _ hx =>
    refine .intro ?_
    rw [Int.neg_mul, ← hx]
    cases negative <;> simp [signed]

/-- A sum of integers is exact. -/
theorem Denotes.add (hx : Denotes x a) (hy : Denotes y b) (hsum : (a + b).natAbs < twoPow 53) :
    Denotes (x.add y) (a + b) := by
  cases hx with
  | @intro negative m j _ hx =>
    cases hy with
    | @intro negative' m' k _ hy =>
      have hmin : min (-(j : Int)) (-k) = -((max j k : Nat) : Int) := by omega
      have hj : (-(j : Int) - -((max j k : Nat) : Int)).toNat = max j k - j := by omega
      have hk : (-(k : Int) - -((max j k : Nat) : Int)).toNat = max j k - k := by omega
      have hpow {i : Nat} (hi : i ≤ max j k) :
          ((twoPow i : Int)) * twoPow (max j k - i) = twoPow (max j k) := by
        rw [← Int.natCast_mul, ← twoPow_add, Nat.add_sub_of_le hi]
      have hcommon : signed negative m * twoPow (max j k - j) +
          signed negative' m' * twoPow (max j k - k) = (a + b) * twoPow (max j k) := by
        rw [hx, hy, Int.mul_assoc, Int.mul_assoc, hpow (Nat.le_max_left j k),
          hpow (Nat.le_max_right j k), Int.add_mul]
      unfold Binary64.add
      dsimp only
      rw [hmin, hj, hk, hcommon]
      exact denotes_ofScaled _ hsum

/-- A multiple of an integer is exact. -/
theorem Denotes.times (hx : Denotes x a) (hprod : (a * k).natAbs < twoPow 53) :
    Denotes (x.times k) (a * k) := by
  cases hx with
  | @intro negative m j _ hx =>
    have hcommon : signed negative (m * k) = a * k * twoPow j := by
      rw [signed_mul, hx]
      ring
    unfold Binary64.times
    dsimp only
    rw [hcommon]
    exact denotes_ofScaled j hprod

theorem Denotes.isNegative_iff (hx : Denotes x a) : x.isNegative = true ↔ a < 0 := by
  cases hx with
  | @intro negative m k _ hx =>
    have hpos : (0 : Int) < twoPow k := Int.natCast_pos.mpr (twoPow_pos k)
    have hsign : signed negative m < 0 ↔ a < 0 := by
      rw [hx, ← not_le, ← not_le, Int.mul_nonneg_iff_of_pos_right hpos]
    rw [← hsign]
    unfold isNegative signed
    cases negative with
    | false => simp
    | true => simp

theorem ceiling_eq (h : signed negative m = n * twoPow k) : ceiling negative m (-k) = n := by
  unfold ceiling
  split
  · next hk =>
    obtain rfl : k = 0 := by omega
    rw [h]
    simp [twoPow]
  · have hpos : (twoPow k : Int) ≠ 0 := (Int.natCast_pos.mpr (twoPow_pos k)).ne'
    rw [Int.neg_neg, Int.toNat_natCast, h, ← Int.neg_mul, Int.mul_ediv_cancel _ hpos, Int.neg_neg]

end BuildRepair.Binary64
