import BuildRepair.Console.WidthTable
import BuildRepair.Text.Line

/-
  Laying out text in columns. A line that is too wide is broken between words; a word that is wider
  than the line is folded or cut. A table takes as many columns as its cells need, and the widest
  ones give way if that is too much.
-/

namespace BuildRepair.Console

/-- The columns of a printed line. -/
def screenWidth : Nat := 400

/-- How many columns a character takes. -/
def charWidth (c : Char) : Nat :=
  let n := c.toNat
  if 0x20 ≤ n ∧ n < 0x7F then 1
  else if Text.inRanges n zeroWidthRanges then 0
  else if Text.inRanges n doubleWidthRanges then 2
  else 1

/-- Widths added up. -/
def total (widths : List Nat) : Nat := widths.foldl (· + ·) 0

/-- How many columns a text takes. -/
def textWidth (s : List Char) : Nat := total (s.map charWidth)

/-- How far tabs stand apart. -/
def tabWidth : Nat := 8

/-- A line with each tab filled up to the next tab stop. -/
def expandTabs (column : Nat) : List Char → List Char
  | [] => []
  | '\t' :: s =>
    let width := tabWidth - column % tabWidth
    List.replicate width ' ' ++ expandTabs (column + width) s
  | c :: s => c :: expandTabs (column + charWidth c) s

/-- What becomes of a word that is wider than the line. -/
inductive Overflow where
  /-- It goes on in the next line. -/
  | fold
  /-- It is cut and ends in an ellipsis. -/
  | ellipsis
deriving DecidableEq, Repr

/-- The blanks that a line starts with, and its words, each with the blanks after it. -/
def blanksAndWords : List Char → List Char × List (List Char)
  | [] => ([], [])
  | c :: s =>
    match blanksAndWords s with
    | (blanks, words) =>
      if Text.isBlank c then (c :: blanks, words)
      else
        match blanks, words with
        | [], word :: rest => ([], (c :: word) :: rest)
        | blanks, words => ([], (c :: blanks) :: words)

/-- The words of a line, each with the blanks after it; the first one has those before it too. A
line of blanks has none. -/
def lineWords (line : List Char) : List (List Char) :=
  match blanksAndWords line with
  | (blanks, word :: rest) => (blanks ++ word) :: rest
  | (_, []) => []

/-- A text in pieces that a width can hold, when `piece` was read. -/
def foldWord (width : Nat) (piece : List Char) : List Char → List (List Char)
  | [] => [piece]
  | c :: s =>
    if width < textWidth piece + charWidth c then piece :: foldWord width [c] s
    else foldWord width (piece ++ [c]) s

/-- A line, unless it is empty. -/
def unlessEmpty (line : List Char) : List (List Char) := if line = [] then [] else [line]

/-- The lines of words when a line was begun. A word goes to the next line if it does not fit
without the blanks after it. -/
def breakWords (o : Overflow) (width : Nat) (line : List Char) :
    List (List Char) → List (List Char)
  | [] => [line]
  | word :: rest =>
    let solid := textWidth (Text.trimRight word)
    if textWidth line + solid ≤ width then breakWords o width (line ++ word) rest
    else if solid ≤ width then line :: breakWords o width word rest
    else
      match o with
      | .ellipsis => unlessEmpty line ++ breakWords o width word rest
      | .fold =>
        let pieces := foldWord width [] word
        unlessEmpty line ++ pieces.dropLast ++ breakWords o width (pieces.getLast?.getD []) rest

/-- A line without those blanks at its end that make it longer than a width. -/
def dropBlankEnd (width : Nat) (line : List Char) : List Char :=
  let blanks := (line.reverse.takeWhile Text.isBlank).length
  line.take (line.length - min blanks (line.length - width))

/-- The start of a line that takes a number of columns, sought between two lengths; half of a wide
character is a blank. Halving the lengths decides how many marks without a column of their own
stay at the cut. `fuel` bounds the steps. -/
def cropBetween (line : List Char) (width : Nat) : (fuel low high : Nat) → List Char
  | 0, low, _ => line.take low
  | fuel + 1, low, high =>
    let middle := (low + high) / 2
    let start := line.take (middle + 1)
    let taken := textWidth start
    if taken = width + 1 ∧ start.getLast?.any (charWidth · == 2) then start.dropLast ++ [' ']
    else if taken = width then start
    else if width < taken then cropBetween line width fuel low middle
    else cropBetween line width fuel middle high

/-- The start of a wider line that takes a number of columns. -/
def crop (width : Nat) (line : List Char) : List Char :=
  if width = 0 then [] else cropBetween line width line.length 0 line.length

/-- A line that is cut if it is too wide. -/
def truncate (o : Overflow) (width : Nat) (line : List Char) : List Char :=
  if textWidth line ≤ width then line
  else
    match o with
    | .fold => crop width line
    | .ellipsis => crop (width - 1) line ++ ['…']

/-- The lines of a text in a number of columns, without the blanks around them. -/
def layOut (o : Overflow) (width : Nat) (s : List Char) : List (List Char) :=
  (Text.splitOn '\n' s).flatMap fun line =>
    let line := expandTabs 0 line
    let broken :=
      match lineWords line with
      | [] => [line]
      | words => breakWords o width [] words
    broken.map fun line => Text.trim (truncate o width (dropBlankEnd width line))

/-! Tables -/

/-- The blanks beside a cell, one on each side. -/
def cellMargin : Nat := 2

/-- The columns that a cell asks for, when tabs are not filled up. -/
def cellWidth (s : List Char) : Nat := ((Text.lines s).map textWidth).foldl max 0 + cellMargin

/-- One of `parts` equal parts of a total, rounded to the nearest number and to an even one in the
middle. -/
def roundedShare (total parts : Nat) : Nat :=
  let (q, r) := (total / parts, total % parts)
  if 2 * r > parts ∨ 2 * r = parts ∧ q % 2 = 1 then q + 1 else q

/-- Takes `excess` in equal shares from the widths that are `widest`, no more than `most` from
each; `parts` is how many of them are left. -/
def shrink (widest most : Nat) : (excess parts : Nat) → List Nat → List Nat
  | _, _, [] => []
  | excess, parts, w :: ws =>
    if w = widest ∧ 0 < parts then
      let share := min most (roundedShare excess parts)
      (w - share) :: shrink widest most (excess - share) (parts - 1) ws
    else w :: shrink widest most excess parts ws

/-- Widths that a limit can hold: the widest ones shrink to the next widest ones until they do.
`fuel` bounds the steps. -/
def collapse (limit : Nat) : (fuel : Nat) → List Nat → List Nat
  | 0, ws => ws
  | fuel + 1, ws =>
    let excess := total ws - limit
    if excess = 0 then ws
    else
      let widest := ws.foldl max 0
      let next := (ws.filter (· ≠ widest)).foldl max 0
      collapse limit fuel (shrink widest (min excess (widest - next)) excess (ws.count widest) ws)

/-- The widths of the columns of a table; between and beside them stand its lines. -/
def columnWidths (rows : List (List (List Char))) : List Nat :=
  let columns := (rows.map (·.length)).foldl max 0
  let limit := screenWidth - (columns + 1)
  let asked := (List.range columns).map fun n =>
    min limit ((rows.map fun row => cellWidth (row[n]?.getD [])).foldl max 0)
  if total asked ≤ limit then asked else collapse limit screenWidth asked

end BuildRepair.Console
