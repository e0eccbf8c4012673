/-
  Double-precision numbers as exact values. A finite double is `± mantissa · 2 ^ exponent`, and
  `ofDecimal` rounds a decimal to the nearest one, a tie going to the even mantissa. No operation
  goes through hardware floating point, so each is an equation between integers.
-/

namespace BuildRepair

/-- A double. A finite one has a mantissa below `2 ^ 53` and an exponent from -1074 to 971. -/
inductive Binary64 where
  | finite (negative : Bool) (mantissa : Nat) (exponent : Int)
  | infinite (negative : Bool)
  | nan
deriving DecidableEq, Repr, Inhabited

namespace Binary64

/-- A power of two. -/
def twoPow (n : Nat) : Nat := Nat.pow 2 n

/-- A power of ten. -/
def tenPow (n : Nat) : Nat := Nat.pow 10 n

/-- `num / den` over `2 ^ e`, as a quotient of naturals. -/
def scale (num den : Nat) (e : Int) : Nat × Nat :=
  if 0 ≤ e then (num, den * twoPow e.toNat) else (num * twoPow (-e).toNat, den)

/-- The natural nearest to `num / den`; a half goes to the even neighbour. -/
def roundHalfEven (num den : Nat) : Nat :=
  let q := num / den
  let r := num % den
  if 2 * r < den then q else if den < 2 * r then q + 1 else q + q % 2

/-- The double nearest to `± num / den`. -/
def ofRatio (negative : Bool) (num den : Nat) : Binary64 :=
  if num = 0 then .finite negative 0 (-1074)
  else
    let low : Int := max (-1074) ((num.log2 : Int) - den.log2 - 53)
    let atLow := scale num den low
    let e := if twoPow 53 ≤ atLow.1 / atLow.2 then low + 1 else low
    let q := scale num den e
    let m := roundHalfEven q.1 q.2
    let rounded : Nat × Int := if m = twoPow 53 then (twoPow 52, e + 1) else (m, e)
    if 971 < rounded.2 then .infinite negative else .finite negative rounded.1 rounded.2

/-- How many decimal digits a natural is written with. -/
def decimalLength (n : Nat) : Nat := (Nat.toDigits 10 n).length

/--
The double nearest to `± digits · 10 ^ exponent`. Beyond `10 ^ 400` every value is infinite and
below `10 ^ -400` every value is zero, so the powers computed stay small.
-/
def ofDecimal (negative : Bool) (digits : Nat) (exponent : Int) : Binary64 :=
  let magnitude := decimalLength digits + exponent
  if digits = 0 ∨ magnitude < -400 then .finite negative 0 (-1074)
  else if 400 < magnitude then .infinite negative
  else if 0 ≤ exponent then ofRatio negative (digits * tenPow exponent.toNat) 1
  else ofRatio negative digits (tenPow (-exponent).toNat)

/-- The double nearest to an integer. -/
def ofInt (n : Int) : Binary64 := ofRatio (n < 0) n.natAbs 1

/-- A natural with a sign. -/
def signed (negative : Bool) (n : Nat) : Int := if negative then -n else n

/-- The double nearest to `n · 2 ^ e`. -/
def ofScaled (n e : Int) : Binary64 :=
  let q := scale n.natAbs 1 (-e)
  ofRatio (n < 0) q.1 q.2

/-- The double nearest to a sum. -/
def add : Binary64 → Binary64 → Binary64
  | .nan, _ | _, .nan => .nan
  | .infinite a, .infinite b => if a = b then .infinite a else .nan
  | .infinite a, _ | _, .infinite a => .infinite a
  | .finite a m e, .finite b n f =>
    let low := min e f
    ofScaled (signed a m * twoPow (e - low).toNat + signed b n * twoPow (f - low).toNat) low

/-- A double with the other sign. -/
def neg : Binary64 → Binary64
  | .finite negative m e => .finite (!negative) m e
  | .infinite negative => .infinite (!negative)
  | .nan => .nan

/-- The double nearest to a multiple, by a number other than zero. -/
def times (k : Nat) : Binary64 → Binary64
  | .finite negative m e => ofScaled (signed negative (m * k)) e
  | x => x

/-- Whether a double lies below zero. -/
def isNegative : Binary64 → Bool
  | .finite negative m _ => negative && m != 0
  | .infinite negative => negative
  | .nan => false

/-- The least integer that is no less than `± m · 2 ^ e`. -/
def ceiling (negative : Bool) (m : Nat) (e : Int) : Int :=
  if 0 ≤ e then signed negative m * twoPow e.toNat
  else -(-signed negative m / (twoPow (-e).toNat : Int))

/-- The integer part of a finite double; none for an infinity and for no number. -/
def truncate? : Binary64 → Option Int
  | .finite negative m e =>
    let n := if 0 ≤ e then m * twoPow e.toNat else m / twoPow (-e).toNat
    some (if negative then -n else n)
  | _ => none

/-- Whether a double is exactly the integer `n`. -/
def isInt (x : Binary64) (n : Int) : Bool :=
  match x with
  | .finite negative m e =>
    if m = 0 then n == 0
    else
      (decide (n < 0) == negative) &&
        (if 0 ≤ e then m * twoPow e.toNat == n.natAbs else m == n.natAbs * twoPow (-e).toNat)
  | _ => false

/-- Whether a double is a zero of either sign. -/
def isZero : Binary64 → Bool
  | .finite _ m _ => m == 0
  | _ => false

/-- Whether two doubles denote the same number: the two zeros do. -/
def sameNumber (x y : Binary64) : Bool := x == y || (x.isZero && y.isZero)

end Binary64
end BuildRepair
