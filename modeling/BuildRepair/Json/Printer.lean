import BuildRepair.Json.Value
import BuildRepair.Decimal.Shortest
import BuildRepair.Text.Half
import BuildRepair.Text.Number

/-
  JSON in writing, in ASCII. `compact` puts a value on one line, `pretty` gives each item its own
  line with two blanks per level. Empty arrays and objects stay on one line in both. A point in time
  stands as a string.
-/

namespace BuildRepair.Json

/-- One UTF-16 unit as an escape. -/
def unitEscape (n : Nat) : List Char := '\\' :: 'u' :: Text.hexText 4 n

/-- A character above U+FFFF as the escapes of its two halves: its ten high and its ten low bits. -/
def pairEscape (c : Char) : List Char :=
  let n := c.toNat - 0x10000
  unitEscape (0xD800 + n / 0x400) ++ unitEscape (0xDC00 + n % 0x400)

/-- A character as it stands in a string: as itself if it is printable ASCII, else escaped. -/
def escape (c : Char) : List Char :=
  if c = '"' ∨ c = '\\' then ['\\', c]
  else if c = '\n' then ['\\', 'n']
  else if c = '\r' then ['\\', 'r']
  else if c = '\t' then ['\\', 't']
  else if c.toNat = 0x8 then ['\\', 'b']
  else if c.toNat = 0xC then ['\\', 'f']
  else if 0x20 ≤ c.toNat ∧ c.toNat < 0x7F then [c]
  else if c.toNat < 0x10000 then unitEscape c.toNat
  else pairEscape c

/-- Characters as they stand in a string. A half is escaped as itself, unless it would make one
character with the half before it; then the character that is held for it is escaped. -/
def escapeAll (afterHigh : Bool) : List Char → List Char
  | [] => []
  | c :: s =>
    let escaped :=
      match Text.half? c with
      | some n => if afterHigh && Text.isLowUnit n then pairEscape c else unitEscape n
      | none => escape c
    escaped ++ escapeAll (Text.isHighHalf c) s

/-- A string with its quotes. -/
def stringText (s : String) : List Char := '"' :: escapeAll false s.toList ++ ['"']

/-- A value without parts. -/
def atomText : Json → List Char
  | .null => ['n', 'u', 'l', 'l']
  | .bool true => ['t', 'r', 'u', 'e']
  | .bool false => ['f', 'a', 'l', 's', 'e']
  | .int n => Text.intText n
  | .real x => (x.textWith "Infinity" "NaN").toList
  | .str s => stringText s
  | .arr _ => ['[', ']']
  | .obj _ => ['\x7b', '\x7d']
  | .date t => stringText t.text

mutual
/-- A value on one line, with a blank after each comma and colon. -/
def compactText : Json → List Char
  | .arr (x :: xs) => '[' :: compactText x ++ compactItems xs
  | .obj ((k, x) :: fs) => '\x7b' :: stringText k ++ ':' :: ' ' :: compactText x ++ compactFields fs
  | a => atomText a
/-- The further items of an array and its end. -/
def compactItems : List Json → List Char
  | [] => [']']
  | x :: xs => ',' :: ' ' :: compactText x ++ compactItems xs
/-- The further fields of an object and its end. -/
def compactFields : List (String × Json) → List Char
  | [] => ['\x7d']
  | (k, x) :: fs => ',' :: ' ' :: stringText k ++ ':' :: ' ' :: compactText x ++ compactFields fs
end

/-- A line end and the indentation of a level. -/
def newLine (level : Nat) : List Char := '\n' :: List.replicate (2 * level) ' '

mutual
/-- A value over several lines, standing at a level of indentation. -/
def prettyText (level : Nat) : Json → List Char
  | .arr (x :: xs) => '[' :: newLine (level + 1) ++ prettyText (level + 1) x ++ prettyItems level xs
  | .obj ((k, x) :: fs) =>
    '\x7b' :: newLine (level + 1) ++ stringText k ++ ':' :: ' ' :: prettyText (level + 1) x ++
      prettyFields level fs
  | a => atomText a
/-- The further items of an array at a level and its end. -/
def prettyItems (level : Nat) : List Json → List Char
  | [] => newLine level ++ [']']
  | x :: xs => ',' :: newLine (level + 1) ++ prettyText (level + 1) x ++ prettyItems level xs
/-- The further fields of an object at a level and its end. -/
def prettyFields (level : Nat) : List (String × Json) → List Char
  | [] => newLine level ++ ['\x7d']
  | (k, x) :: fs =>
    ',' :: newLine (level + 1) ++ stringText k ++ ':' :: ' ' :: prettyText (level + 1) x ++
      prettyFields level fs
end

/-- A value on one line. -/
def compact (j : Json) : String := String.ofList (compactText j)

/-- A value over several lines. -/
def pretty (j : Json) : String := String.ofList (prettyText 0 j)

/-- A whole document: the value over several lines and a line end. -/
def document (j : Json) : String := String.ofList (prettyText 0 j ++ ['\n'])

end BuildRepair.Json
