import BuildRepair.Http.Composition
import BuildRepair.Http.LabelTable
import BuildRepair.Text.Class
import BuildRepair.Text.Line

/-
  Hosts outside ASCII. A host is a list of labels between dots, and a label beyond ASCII is written
  with ASCII characters alone: first its own ones, then where each other one is inserted, as a row
  of numbers in which the position and the character are counted up together. A label holds letters,
  digits and hyphens; characters that have another written form may not stand in it.
  `isReadableHost` tells whether a host that starts as such a written form is one.
-/

namespace BuildRepair.Url

/-! The writing of a label -/

/-- The digit of a value below thirty-six: the letters and then the ten digits. -/
def labelDigit (n : Nat) : Char := Char.ofNat (if n < 26 then 97 + n else 22 + n)

/-- From which value on the `k`-th digit of a number is not its last one; digits count by
thirty-sixes. -/
def threshold (bias k : Nat) : Nat := if k ≤ bias then 1 else min 26 (k - bias)

theorem threshold_pos (bias k : Nat) : 0 < threshold bias k := by
  unfold threshold
  split <;> omega

/-- A number from its `k`-th digit on, the least digit first. -/
def labelNumber (bias k n : Nat) : List Char :=
  let t := threshold bias k
  if h : n < t then [labelDigit n]
  else
    labelDigit (t + (n - t) % (36 - t)) :: labelNumber bias (k + 36) ((n - t) / (36 - t))
  termination_by n
  decreasing_by
    have := threshold_pos bias k
    exact Nat.lt_of_le_of_lt (Nat.div_le_self _ _) (by omega)

/-- How often a number is divided before it is small, and what is left of it. -/
def shrink (k n : Nat) : Nat × Nat :=
  if h : 455 < n then shrink (k + 36) (n / 35) else (k, n)
  termination_by n
  decreasing_by exact Nat.div_lt_self (by omega) (by omega)

/-- The bias after a number, when `count` characters are in place. -/
def nextBias (first : Bool) (number count : Nat) : Nat :=
  let n := if first then number / 700 else number / 2
  let (k, n) := shrink 0 (n + n / count)
  k + 36 * n / (n + 38)

/-- Where the writing of a label stands. -/
structure LabelState where
  /-- What was counted up since the last number. -/
  number : Nat := 0
  bias : Nat := 72
  /-- How many characters are in place. -/
  count : Nat
  written : List Char := []

/-- Passes one character of a label while the characters `c` are inserted. -/
def LabelState.pass (ascii : Nat) (c : Char) (s : LabelState) (d : Char) : LabelState :=
  if d < c then { s with number := s.number + 1 }
  else if d = c then
    { number := 0
      bias := nextBias (s.count == ascii) s.number (s.count + 1)
      count := s.count + 1
      written := s.written ++ labelNumber s.bias 36 s.number }
  else s

/-- Inserts characters in increasing order; `next` is the first one that is still to come. -/
def LabelState.insertAll (label : List Char) (ascii : Nat) :
    Nat → List Char → LabelState → LabelState
  | _, [], s => s
  | next, c :: cs, s =>
    let s := { s with number := s.number + (c.toNat - next) * (s.count + 1) }
    let s := label.foldl (LabelState.pass ascii c) s
    insertAll label ascii (c.toNat + 1) cs { s with number := s.number + 1 }

/-- A label beyond ASCII with ASCII characters alone. -/
def asciiLabel (label : List Char) : List Char :=
  let own := label.filter (·.toNat < 0x80)
  let others := ((label.filter (0x80 ≤ ·.toNat)).eraseDups).mergeSort (· ≤ ·)
  let s := LabelState.insertAll label own.length 0x80 others { count := own.length }
  "xn--".toList ++ own ++ (if own = [] then [] else ['-']) ++ s.written

/-! The reading of a label -/

/-- The value of a digit. -/
def labelDigitValue? (c : Char) : Option Nat :=
  if 'a' ≤ c ∧ c ≤ 'z' then some (c.toNat - 97)
  else if '0' ≤ c ∧ c ≤ '9' then some (c.toNat - 22)
  else none

/-- The number that a text starts with, from its `k`-th digit on, and the rest; a digit counts
`weight` times. -/
def readLabelNumber? (bias k weight : Nat) : List Char → Option (Nat × List Char)
  | [] => none
  | c :: s =>
    match labelDigitValue? c with
    | none => none
    | some digit =>
      let t := threshold bias k
      if digit < t then some (digit * weight, s)
      else
        (readLabelNumber? bias (k + 36) (weight * (36 - t)) s).map fun (n, rest) =>
          (digit * weight + n, rest)

/-- Inserts the characters that a text counts up to; `next` and `place` are the first character and
place that are still to come. `fuel` bounds the numbers in the text. -/
def insertCounted? (first : Bool) (bias next place : Nat) (label : List Char) :
    (fuel : Nat) → List Char → Option (List Char)
  | _, [] => some label
  | 0, _ => none
  | fuel + 1, s =>
    match readLabelNumber? bias 36 1 s with
    | none => none
    | some (number, rest) =>
      let places := label.length + 1
      let next := next + (place + number) / places
      let place := (place + number) % places
      if 0x10FFFF < next then none
      else
        insertCounted? false (nextBias first number places) next (place + 1)
          (label.take place ++ Char.ofNat next :: label.drop place) fuel rest

/-- The label that a text with ASCII characters alone stands for, when the mark before it was
read. -/
def readLabel? (s : List Char) : Option (List Char) :=
  let counted := (s.reverse.takeWhile (· ≠ '-')).reverse
  insertCounted? true 72 0x80 0 (s.take (s.length - counted.length - 1)) counted.length counted

/-! The characters of a label -/

/-- Whether a character may stand anywhere in a label. -/
def inLabel (c : Char) : Bool :=
  let n := c.toNat
  ('a' ≤ c && c ≤ 'z') || ('0' ≤ c && c ≤ '9') || c == '-' ||
    Text.inRanges n labelRanges ||
    alternatingLabelRanges.any fun r => r.1 ≤ n && n ≤ r.2 && (n - r.1) % 2 == 0

/-- Whether a character is a mark on the one before it. -/
def isMark (c : Char) : Bool := Text.inRanges c.toNat markRanges

/-- Whether a character is a mark that takes no room. -/
def isNonspacing (c : Char) : Bool := isMark c && !Text.inRanges c.toNat spacingRanges

/-- The mark that takes the vowel from a letter, by its class. -/
def isVowelKiller (c : Char) : Bool := markClass c == 9

/-- Whether letters that join stand on both sides of a place, apart from marks on them. -/
def isBetweenJoining (before after : List Char) : Bool :=
  let passes (c : Char) : Bool := isNonspacing c || c.toNat == 0x1E94B
  let isDouble (c : Char) : Bool := Text.inRanges c.toNat joiningRanges
  let isForward (c : Char) : Bool := [0xA872, 0x10ACD, 0x10AD7, 0x10D00].contains c.toNat
  let isBack (c : Char) : Bool := Text.inRanges c.toNat joiningBackRanges
  (before.reverse.dropWhile passes).head?.any (fun c => isDouble c || isForward c) &&
    (after.dropWhile passes).head?.any fun c => isDouble c || isBack c

/-- Whether a character is of a kana or of the characters that come from China. -/
def isKanaOrHan (c : Char) : Bool :=
  let n := c.toNat
  (0x3041 ≤ n && n ≤ 0x30FF && n != 0x30FB) || (0x31F0 ≤ n && n ≤ 0x31FF) ||
    (0x3005 ≤ n && n ≤ 0x3007) || (0x3400 ≤ n && n ≤ 0x4DBF) || (0x4E00 ≤ n && n ≤ 0x9FFF) ||
    (0x20000 ≤ n && n ≤ 0x33479)

/-- Whether a character that depends on its neighbours may stand between two parts of a label. -/
def fits (before : List Char) (c : Char) (after : List Char) : Bool :=
  let n := c.toNat
  let left := before.getLast?
  let isIn (low high : Nat) (d : Char) : Bool := low ≤ d.toNat && d.toNat ≤ high
  if n = 0xB7 then left == some 'l' && after.head? == some 'l'
  else if n = 0x375 then after.head?.any (isIn 0x370 0x3FF)
  else if n = 0x5F3 ∨ n = 0x5F4 then left.any (isIn 0x591 0x5F4)
  else if n = 0x30FB then (before ++ after).any isKanaOrHan
  else if 0x660 ≤ n ∧ n ≤ 0x669 then !(before ++ after).any (isIn 0x6F0 0x6F9)
  else if 0x6F0 ≤ n ∧ n ≤ 0x6F9 then !(before ++ after).any (isIn 0x660 0x669)
  else if n = 0x200C then left.any isVowelKiller || isBetweenJoining before after
  else if n = 0x200D then left.any isVowelKiller
  else false

/-- Whether every character of a label may stand where it does. -/
def allFit (before : List Char) : List Char → Bool
  | [] => true
  | c :: after =>
    (inLabel c || fits before c after) && allFit (before ++ [c]) after

/-- Digits that are set from right to left as a whole. -/
def isArabicDigit (c : Char) : Bool :=
  let n := c.toNat
  (0x660 ≤ n && n ≤ 0x669) || (0x10D30 ≤ n && n ≤ 0x10D39)

/-- Digits that are set from left to right in every script. -/
def isCommonDigit (c : Char) : Bool :=
  ('0' ≤ c && c ≤ '9') || (0x6F0 ≤ c.toNat && c.toNat ≤ 0x6F9)

/-- Letters of labels that are written from right to left. -/
def isRightToLeft (c : Char) : Bool :=
  let n := c.toNat
  let isScript := (0x5D0 ≤ n && n ≤ 0x8C9) || n == 0xFE73 || (0x10800 ≤ n && n ≤ 0x10FF6) ||
    (0x1E800 ≤ n && n ≤ 0x1E959)
  isScript && !isMark c && !isArabicDigit c && !isCommonDigit c

/-- Characters of labels without a direction, apart from marks. -/
def isNeutral (c : Char) : Bool :=
  c == '-' || Text.inRanges c.toNat [
    (0xB7, 0xB7), (0x2B9, 0x2BA), (0x2C6, 0x2CF), (0x2EC, 0x2EC), (0x375, 0x375),
    (0x200C, 0x200D), (0x2E2F, 0x2E2F), (0x30FB, 0x30FB), (0xA67F, 0xA67F), (0xA717, 0xA71F),
    (0xA788, 0xA788)]

/-- Whether a label reads in one direction. One with letters from right to left begins with one,
ends with one or with a digit, has no letters from left to right, and one kind of digits. -/
def hasOneDirection (label : List Char) : Bool :=
  if label.any fun c => isRightToLeft c || isArabicDigit c then
    let isCore (c : Char) : Bool := isRightToLeft c || isArabicDigit c || isCommonDigit c
    label.head?.any isRightToLeft &&
      label.all (fun c => isCore c || isNonspacing c || isNeutral c) &&
      (label.reverse.dropWhile isNonspacing).head?.any isCore &&
      !(label.any isArabicDigit && label.any isCommonDigit)
  else true

/-- Whether a label begins and ends as a label may, and has no hyphens that mark a written form. -/
def isFramed (label : List Char) : Bool :=
  !label.isEmpty && label.head? != some '-' && label.getLast? != some '-' &&
    !(label.drop 2).take 2 == ['-', '-'] && !label.head?.any isMark

/-- Whether a label may be part of a host. -/
def isValidLabel (label : List Char) : Bool :=
  isFramed label && allFit [] label && hasOneDirection label && composed label == label

/-- Whether a label in ASCII may be part of a host: it is a written form, or may stand as it is. -/
def isReadable (label : List Char) : Bool :=
  if "xn--".toList.isPrefixOf label then
    let rest := label.drop 4
    !rest.isEmpty && rest.getLast? != some '-' && (readLabel? rest).any isValidLabel
  else isValidLabel label

/-- The longest label. -/
def labelLimit : Nat := 63

/-- The longest host, a dot at its end apart. -/
def hostLimit : Nat := 253

/-- A label in writing. One in ASCII stands as it is. -/
def normalLabel? (label : List Char) : Option (List Char) := do
  let written ←
    if label.all (·.toNat < 0x80) then (if isReadable label then some label else none)
    else if isValidLabel label then some (asciiLabel label)
    else none
  guard (written.length ≤ labelLimit)
  return written

/-- The dots between labels in several scripts. -/
def isDot (c : Char) : Bool :=
  c == '.' || c.toNat == 0x3002 || c.toNat == 0xFF0E || c.toNat == 0xFF61

/-- A host beyond ASCII in writing; its last label may be empty. -/
def asciiHost? (host : List Char) : Option (List Char) := do
  let labels := Text.splitOn '.' (host.map fun c => if isDot c then '.' else c)
  let rooted := labels.getLast? = some []
  let written ← (if rooted then labels.dropLast else labels).mapM normalLabel?
  let text := Text.joinWith ['.'] (if rooted then written ++ [[]] else written)
  guard (text.length ≤ if rooted then hostLimit + 1 else hostLimit)
  return text

/-- Whether a host in ASCII can be read: one that begins with a written form is made of labels that
can; its last label may be empty. -/
def isReadableHost (host : List Char) : Bool :=
  if "xn--".toList.isPrefixOf host then
    let labels := Text.splitOn '.' host
    (if labels.getLast? = some [] then labels.dropLast else labels).all isReadable
  else true

end BuildRepair.Url
