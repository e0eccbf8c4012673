import BuildRepair.Decimal.Binary64

/-
  The shortest decimal that reads back as a given double. On each decimal grid, from one digit
  to seventeen, only the two neighbours of the value are tried; the first grid with a neighbour
  inside the rounding interval gives the digits, the nearer neighbour first.
-/

namespace BuildRepair.Binary64

/-- A decimal `digits · 10 ^ exponent`. -/
structure Decimal where
  digits : Nat
  exponent : Int
deriving DecidableEq, Repr

/-- The value and the ends of its rounding interval over one denominator. -/
structure Interval where
  low : Nat
  value : Nat
  high : Nat
  den : Nat
  /-- Whether the ends themselves round to the value. -/
  closed : Bool

/--
The reals that round to `m · 2 ^ e`: up to half the gap to each neighbour. The gap below a power
of two is half as wide, except at the least exponent.
-/
def interval (m : Nat) (e : Int) : Interval :=
  let tight := m = twoPow 52 ∧ -1074 < e
  let low := if tight then 4 * m - 1 else 4 * m - 2
  let s := scale 1 4 (-e)
  ⟨low * s.1, 4 * m * s.1, (4 * m + 2) * s.1, s.2, m % 2 == 0⟩

/-- The exponent of the leading decimal digit of `num / den`, for `0 < num`. -/
def leadingExponent (num den : Nat) : Int :=
  if den ≤ num then (decimalLength (num / den) : Int) - 1
  else
    -- `den / num` has as many digits as the leading digit is places after the point, or one less
    let d := decimalLength (den / num)
    if den ≤ num * tenPow (d - 1) then -((d : Int) - 1) else -(d : Int)

/-- Whether `digits · 10 ^ k` rounds to the value. -/
def Interval.reads (i : Interval) (digits : Nat) (k : Int) : Bool :=
  let scaled := if 0 ≤ k then digits * tenPow k.toNat * i.den else digits * i.den
  let unit := if 0 ≤ k then 1 else tenPow (-k).toNat
  (i.low * unit < scaled && scaled < i.high * unit) ||
    (i.closed && (scaled == i.low * unit || scaled == i.high * unit))

/-- The neighbour of the value on the grid of `10 ^ k` that reads back, the nearer one of two. -/
def Interval.onGrid (i : Interval) (k : Int) : Option Nat :=
  let num := if 0 ≤ k then i.value else i.value * tenPow (-k).toNat
  let den := if 0 ≤ k then i.den * tenPow k.toNat else i.den
  let below := num / den
  let twice := 2 * (num % den)
  match i.reads below k, i.reads (below + 1) k with
  | true, true =>
    if twice < den then some below
    else if den < twice then some (below + 1)
    else some (below + below % 2)
  | true, false => some below
  | false, true => some (below + 1)
  | false, false => none

/-- Trailing zeros moved into the exponent. -/
def Decimal.normal (fuel : Nat) (d : Decimal) : Decimal :=
  match fuel with
  | 0 => d
  | fuel + 1 =>
    if d.digits ≠ 0 ∧ d.digits % 10 = 0 then Decimal.normal fuel ⟨d.digits / 10, d.exponent + 1⟩
    else d

/-- The shortest decimal of a positive finite double `m · 2 ^ e`. -/
def shortest (m : Nat) (e : Int) : Decimal :=
  let i := interval m e
  let lead := leadingExponent i.value i.den
  let found := (List.range 17).findSome? fun (n : Nat) =>
    let k := lead - (n : Int)
    (i.onGrid k).map fun digits => (⟨digits, k⟩ : Decimal)
  (found.getD ⟨0, 0⟩).normal 20

/-- An exponent with its sign and at least two digits. -/
def exponentText (e : Int) : String :=
  let digits := toString e.natAbs
  (if e < 0 then "e-" else "e+") ++ (if e.natAbs < 10 then "0" ++ digits else digits)

/--
The shortest decimal of a positive double in writing: positional from `10 ^ -4` up to below
`10 ^ 16`, always with a point, and scientific beyond.
-/
def Decimal.text (d : Decimal) : String :=
  let digits := Nat.toDigits 10 d.digits
  let point : Int := digits.length + d.exponent
  if -4 < point ∧ point ≤ 16 then
    if point ≤ 0 then
      "0." ++ String.ofList (List.replicate (-point).toNat '0' ++ digits)
    else if (digits.length : Int) ≤ point then
      String.ofList (digits ++ List.replicate (point.toNat - digits.length) '0') ++ ".0"
    else
      String.ofList (digits.take point.toNat) ++ "." ++ String.ofList (digits.drop point.toNat)
  else
    match digits with
    | [] => ""
    | [d] => String.ofList [d] ++ exponentText (point - 1)
    | d :: rest => String.ofList (d :: '.' :: rest) ++ exponentText (point - 1)

/-- The text of a finite double; `special` names the values that have no digits. -/
def textWith (infinity notANumber : String) : Binary64 → String
  | .finite negative m e =>
    (if negative then "-" else "") ++ (if m = 0 then "0.0" else (shortest m e).text)
  | .infinite negative => (if negative then "-" else "") ++ infinity
  | .nan => notANumber

end BuildRepair.Binary64
