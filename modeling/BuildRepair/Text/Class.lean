import BuildRepair.Text.LetterTable
import BuildRepair.Text.HiddenTable
import BuildRepair.Text.CaseTable
import BuildRepair.Text.CasedTable

/-
  Character classes. `isBlank` separates words, `isDigit` holds the decimal digits of every
  script, `isWord` what a word boundary looks at, `isShown` what a quoted text shows as itself.
  `sameLetter` compares an ASCII pattern with a text regardless of case, `lower` gives the
  small form of a character and `lowerText` that of a text.
-/

namespace BuildRepair.Text

/-- Whether one of the inclusive ranges holds `n`. -/
def inRanges (n : Nat) (ranges : List (Nat × Nat)) : Bool :=
  ranges.any fun r => r.1 ≤ n && n ≤ r.2

/-- Blanks: the ASCII ones with the four separators U+001C to U+001F, and every space of Unicode. -/
def isBlank (c : Char) : Bool :=
  let n := c.toNat
  (0x9 ≤ n && n ≤ 0xD) || (0x1C ≤ n && n ≤ 0x20) || n == 0x85 || n == 0xA0 || n == 0x1680 ||
    (0x2000 ≤ n && n ≤ 0x200A) || n == 0x2028 || n == 0x2029 || n == 0x202F || n == 0x205F ||
    n == 0x3000

/-- The zero of each script whose ten decimal digits follow one another (Unicode 14). -/
def digitZeros : List Nat := [
  0x30, 0x660, 0x6F0, 0x7C0, 0x966, 0x9E6, 0xA66, 0xAE6, 0xB66, 0xBE6, 0xC66, 0xCE6, 0xD66,
  0xDE6, 0xE50, 0xED0, 0xF20, 0x1040, 0x1090, 0x17E0, 0x1810, 0x1946, 0x19D0, 0x1A80, 0x1A90,
  0x1B50, 0x1BB0, 0x1C40, 0x1C50, 0xA620, 0xA8D0, 0xA900, 0xA9D0, 0xA9F0, 0xAA50, 0xABF0,
  0xFF10, 0x104A0, 0x10D30, 0x11066, 0x110F0, 0x11136, 0x111D0, 0x112F0, 0x11450, 0x114D0,
  0x11650, 0x116C0, 0x11730, 0x118E0, 0x11950, 0x11C50, 0x11D50, 0x11DA0, 0x16A60, 0x16AC0,
  0x16B50, 0x1D7CE, 0x1D7D8, 0x1D7E2, 0x1D7EC, 0x1D7F6, 0x1E140, 0x1E2F0, 0x1E950, 0x1FBF0]

/-- The value of a decimal digit of any script. -/
def digitValue? (c : Char) : Option Nat :=
  (digitZeros.find? fun z => z ≤ c.toNat && c.toNat ≤ z + 9).map (c.toNat - ·)

/-- Decimal digits of every script. -/
def isDigit (c : Char) : Bool := (digitValue? c).isSome

/-- The ten digits `0` to `9` alone. -/
def isAsciiDigit (c : Char) : Bool := '0' ≤ c && c ≤ '9'

/-- The fifty-two letters of ASCII. -/
def isAsciiLetter (c : Char) : Bool := ('a' ≤ c && c ≤ 'z') || ('A' ≤ c && c ≤ 'Z')

/-- Letters, digits and numerals of every script, and the underscore. -/
def isWord (c : Char) : Bool :=
  isAsciiLetter c || isAsciiDigit c || c == '_' || (0x80 ≤ c.toNat && inRanges c.toNat letterRanges)

/-- Characters that a quoted text shows as themselves. -/
def isShown (c : Char) : Bool :=
  (0x20 ≤ c.toNat && c.toNat < 0x7F) || (0x80 ≤ c.toNat && !inRanges c.toNat hiddenRanges)

/-- The small form of an ASCII letter; any other character itself. -/
def asciiLower (c : Char) : Char :=
  if 'A' ≤ c ∧ c ≤ 'Z' then Char.ofNat (c.toNat + 32) else c

/-- The small form of a character; U+0130 is the one whose small form has two characters. -/
def lower (c : Char) : List Char :=
  if c.toNat < 0x80 then [asciiLower c]
  else if c.toNat == 0x130 then ['i', Char.ofNat 0x307]
  else
    match capitalRuns.find? fun r =>
      r.first ≤ c.toNat && c.toNat ≤ r.last && (c.toNat - r.first) % r.step == 0 with
    | some r => [Char.ofNat ((c.toNat : Int) + r.shift).toNat]
    | none => [c]

/-- Letters that have a case. -/
def isCased (c : Char) : Bool := inRanges c.toNat casedRanges

/-- Characters that do not count as neighbours of a letter. -/
def isCaseIgnorable (c : Char) : Bool := inRanges c.toNat caseIgnorableRanges

/-- Whether the next neighbour in a text has a case. -/
def beginsCased (s : List Char) : Bool := (s.dropWhile isCaseIgnorable).head?.any isCased

/-- A text in small letters, behind a letter with a case or not. A capital sigma that ends a word of
several letters has the small form of a last letter. -/
def lowerAfter (behindCased : Bool) : List Char → List Char
  | [] => []
  | c :: s =>
    let isLast := c.toNat == 0x3A3 && behindCased && !beginsCased s
    (if isLast then [Char.ofNat 0x3C2] else lower c) ++
      lowerAfter (if isCaseIgnorable c then behindCased else isCased c) s

/-- A text in small letters. -/
def lowerText (s : List Char) : List Char := lowerAfter false s

/--
Whether `c` reads as the ASCII character `a` when case does not count. Beyond ASCII, the dotted
capital I and the dotless small i read as an i, the long s as an s and the Kelvin sign as a k.
-/
def sameLetter (a c : Char) : Bool :=
  asciiLower a == asciiLower c ||
    (asciiLower a == 'i' && (c.toNat == 0x130 || c.toNat == 0x131)) ||
    (asciiLower a == 's' && c.toNat == 0x17F) || (asciiLower a == 'k' && c.toNat == 0x212A)

end BuildRepair.Text
