import BuildRepair.Text.Scan
import BuildRepair.Text.Line

/-
  Blocks of a build log. A line that reports an error opens a block and the lines after it belong
  to it; what comes before the first such line is dropped. A log without such a line is one block.
-/

namespace BuildRepair

open Text

/-- A line and a column, then `error`. -/
def positionedError (s : List Char) : Option Unit := do
  let s ← skip isDigit (s.dropWhile isBlank)
  let s ← literal [':'] s
  let s ← skip isDigit s
  let s ← skip isBlank s
  let _ ← literal "error".toList s

/-- A line and a column in brackets, a colon, then `error`. -/
def bracketedError (s : List Char) : Option Unit := do
  let s ← literal ['('] s
  let s ← skip isDigit s
  let s ← literal [','] s
  let s ← skip isDigit s
  let s ← literal [')', ':'] s
  let _ ← literal "error".toList (s.dropWhile isBlank)

/-- A file name on the first line, then the place of an error in brackets. -/
def fileError : List Char → Option Unit
  | [] => none
  | c :: s =>
    if c = '\n' then none
    else
      match bracketedError s with
      | some u => some u
      | none => fileError s

/-- A compiler code and a colon. -/
def leadingCode (s : List Char) : Option Unit := do
  let s ← literal ['T', 'S'] s
  let s ← skip isDigit s
  let _ ← literal [':'] s

/-- Whether a line opens an error block. -/
def opensBlock (line : List Char) : Bool :=
  ["npm ERR!", "Error:", "SyntaxError:", "TypeError:", "Cannot find module",
      "Module not found"].any (startsWith · line) ||
    ((anyCase "error".toList line).bind (one isBlank)).isSome ||
    ["ERESOLVE", "node-gyp", "gyp ERR!"].any (holds · line) ||
    (leadingCode line).isSome || (positionedError line).isSome || (fileError line).isSome

/-- A number of added packages. -/
def addedPackages (s : List Char) : Option Unit := do
  let s ← literal "added ".toList s
  let s ← skip isDigit s
  let _ ← literal " packages".toList s

/-- Whether a message only reports progress. -/
def isNoise (message : List Char) : Bool :=
  ["npm WARN", "Compiling", "Building", "Done in"].any (startsWith · message) ||
    ["warning", "info", "debug"].any (startsAnyCase · message) ||
    message.all isBlank || ((literal ['>'] message).bind (one isBlank)).isSome ||
    (addedPackages message).isSome

/-- The lines of a log in blocks: each opening line with the lines up to the next one. -/
def blocksOf : List (List Char) → List (List (List Char))
  | [] => []
  | line :: rest =>
    if opensBlock line then
      (line :: rest.takeWhile fun l => !opensBlock l) :: blocksOf rest
    else blocksOf rest

/-- The text of a block without the blanks around it. -/
def blockText (block : List (List Char)) : List Char := trim (joinWith ['\n'] block)

/-- The messages of a log: its blocks that are not blank, or the whole log if there is none. -/
def messages (log : List Char) : List (List Char) :=
  match ((blocksOf (splitOn '\n' log)).map blockText).filter (!·.isEmpty) with
  | [] => if (trim log).isEmpty then [] else [trim log]
  | found => found

end BuildRepair
