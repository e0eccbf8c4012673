import BuildRepair.Text.Line
import BuildRepair.Text.Number
import BuildRepair.Decimal.Binary64

/-
  Numbers as people type them. Most blanks around a number do not count, digits may be those of any
  script, and a single underscore may stand between two digits.
-/

namespace BuildRepair.Text

/-- Blanks that may stand around a number; the four separators of information may not. -/
def isMargin (c : Char) : Bool := isBlank c && !(0x1C ≤ c.toNat && c.toNat ≤ 0x1F)

/-- A typed text without its margins and with every digit in ASCII. -/
def plainDigits (s : List Char) : List Char :=
  let inner := ((s.dropWhile isMargin).reverse.dropWhile isMargin).reverse
  inner.map fun c => (digitValue? c).elim c fun n => Char.ofNat (48 + n)

/-- A text without the underscores between digits; none if one stands elsewhere. -/
def dropUnderscores (afterDigit : Bool) : List Char → Option (List Char)
  | [] => some []
  | ['_'] => none
  | '_' :: c :: s =>
    if afterDigit && isAsciiDigit c then (dropUnderscores true s).map (c :: ·) else none
  | c :: s => (dropUnderscores (isAsciiDigit c) s).map (c :: ·)

/-- A sign, and the rest. -/
def readSign : List Char → Bool × List Char
  | '-' :: s => (true, s)
  | '+' :: s => (false, s)
  | s => (false, s)

/-- The most digits a typed integer may have. -/
def integerLimit : Nat := 4300

/-- The integer that a typed text denotes. -/
def readInteger? (s : List Char) : Option Int := do
  let (negative, digits) := readSign (plainDigits s)
  let digits ← dropUnderscores false digits
  guard (!digits.isEmpty && digits.all isAsciiDigit && digits.length ≤ integerLimit)
  let n : Int := decimalValue digits
  return if negative then -n else n

/-- The exponent of a typed number: a mark, a sign and at least one digit, or nothing. -/
def readExponent? (s : List Char) : Option Int :=
  match s with
  | [] => some 0
  | e :: s => do
    guard (e == 'e' || e == 'E')
    let (negative, digits) := readSign s
    guard (!digits.isEmpty && digits.all isAsciiDigit)
    let n : Int := decimalValue digits
    return if negative then -n else n

/-- The double that digits with at most one point and an exponent denote. -/
def readDecimal? (negative : Bool) (s : List Char) : Option Binary64 := do
  let whole := s.takeWhile isAsciiDigit
  let rest := s.dropWhile isAsciiDigit
  let afterPoint := if rest.head? = some '.' then rest.drop 1 else []
  let fraction := afterPoint.takeWhile isAsciiDigit
  let rest := if rest.head? = some '.' then afterPoint.dropWhile isAsciiDigit else rest
  guard (!(whole ++ fraction).isEmpty)
  let exponent ← readExponent? rest
  return Binary64.ofDecimal negative (decimalValue (whole ++ fraction)) (exponent - fraction.length)

/-- The double that a typed text denotes; infinity and not a number have names. -/
def readDouble? (s : List Char) : Option Binary64 := do
  let s ← dropUnderscores false (plainDigits s)
  let (negative, s) := readSign s
  let name := String.ofList (s.map asciiLower)
  if name = "inf" ∨ name = "infinity" then return .infinite negative
  if name = "nan" then return .nan
  readDecimal? negative s

end BuildRepair.Text
