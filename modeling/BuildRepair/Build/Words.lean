import BuildRepair.Failure

/-
  The words of a command line. Blanks separate words; single quotes keep everything, double quotes
  everything but an escaped quote or backslash, and a backslash outside quotes keeps the next
  character. Quotes may hold an empty word.
-/

namespace BuildRepair.Build

/-- Blanks between words. -/
def isWordBreak (c : Char) : Bool := c == ' ' || c == '\t' || c == '\r' || c == '\n'

/-- Where in a command a character stands. -/
inductive WordMode where
  | plain
  | quoted (quote : Char)
  /-- After a backslash outside quotes. -/
  | escaped
  /-- After a backslash inside double quotes. -/
  | quotedEscape

/-- A word with one more character; the word may only start with it. -/
def addChar (word : Option (List Char)) (c : Char) : Option (List Char) :=
  some (word.getD [] ++ [c])

/-- The words from a position on; `word` is the one begun there. -/
def wordsFrom (mode : WordMode) (word : Option (List Char)) :
    List Char → Except Failure (List (List Char))
  | [] =>
    match mode with
    | .plain => .ok word.toList
    | .quoted _ => .error .unclosedQuote
    | .escaped | .quotedEscape => .error .danglingEscape
  | c :: s =>
    match mode with
    | .plain =>
      if isWordBreak c then
        match wordsFrom .plain none s with
        | .ok rest => .ok (word.toList ++ rest)
        | .error e => .error e
      else if c = '\\' then wordsFrom .escaped word s
      else if c = '\'' ∨ c = '"' then wordsFrom (.quoted c) (some (word.getD [])) s
      else wordsFrom .plain (addChar word c) s
    | .quoted q =>
      if c = q then wordsFrom .plain word s
      else if c = '\\' ∧ q = '"' then wordsFrom .quotedEscape word s
      else wordsFrom (.quoted q) (addChar word c) s
    | .escaped => wordsFrom .plain (addChar word c) s
    | .quotedEscape =>
      let word := if c = '\\' ∨ c = '"' then word else addChar word '\\'
      wordsFrom (.quoted '"') (addChar word c) s

/-- The words of a command line. -/
def words (command : String) : Except Failure (List String) :=
  (wordsFrom .plain none command.toList).map (·.map String.ofList)

end BuildRepair.Build
