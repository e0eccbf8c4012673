/-
  Halves of characters. UTF-16 writes a character above U+FFFF as a high and a low half, and a
  document may name one of them alone. A text holds such a half as a character of a plane that has
  no characters, at a fixed distance, so no two halves are the same text.

  This leaves two kinds of texts out. The characters U+DD800 to U+DDFFF, to which nothing is
  assigned, are taken for the halves they stand for, and are written as these. And a text does not
  hold a high half right before a low one: no document can tell these from the character that they
  make, so the second one is written as the character that is held for it.
-/

namespace BuildRepair.Text

/-- Whether a unit is a half that comes first. -/
def isHighUnit (n : Nat) : Bool := 0xD800 ≤ n && n < 0xDC00

/-- Whether a unit is a half that comes second. -/
def isLowUnit (n : Nat) : Bool := 0xDC00 ≤ n && n < 0xE000

/-- The character that a high and a low half make. -/
def joinHalves (high low : Nat) : Char :=
  Char.ofNat (0x10000 + (high - 0xD800) * 0x400 + (low - 0xDC00))

/-- How far above the halves the characters are that texts hold for them. -/
def halfDistance : Nat := 0xD0000

/-- The character that a text holds for a unit; for a half that is not the unit itself. -/
def unitChar (n : Nat) : Char :=
  Char.ofNat (if isHighUnit n || isLowUnit n then n + halfDistance else n)

/-- The half that a character of a text stands for. -/
def half? (c : Char) : Option Nat :=
  let n := c.toNat - halfDistance
  if isHighUnit n || isLowUnit n then some n else none

/-- Whether a character of a text stands for a half. -/
def isHalf (c : Char) : Bool := (half? c).isSome

/-- Whether a character of a text stands for a high half. -/
def isHighHalf (c : Char) : Bool := (half? c).any isHighUnit

/-- Whether a text holds a half. -/
def holdsHalf (s : String) : Bool := s.toList.any isHalf

end BuildRepair.Text
