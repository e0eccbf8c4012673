import BuildRepair.Text.Scan

/-
  Globs over URLs. `*` stands for any run of characters within a path segment, `**` for any run on
  one line, and every other character for itself. `firstMatch` finds the leftmost match, each
  wildcard as long as the rest allows.
-/

namespace BuildRepair.Glob

/-- A piece of a glob. -/
inductive Piece where
  | char (c : Char)
  /-- Any run without slashes. -/
  | segment
  /-- Any run without line feeds. -/
  | any
deriving DecidableEq, Repr

/-- The pieces of a pattern; of several asterisks in a row, pairs are taken from the left. -/
def pieces : List Char → List Piece
  | '*' :: '*' :: s => .any :: pieces s
  | '*' :: s => .segment :: pieces s
  | c :: s => .char c :: pieces s
  | [] => []

/-- Whether a wildcard may stand for a character. -/
def Piece.covers : Piece → Char → Bool
  | .char d, c => d == c
  | .segment, c => c != '/'
  | .any, c => c != '\n'

/-- How many characters a wildcard and the pieces after it match: the wildcard as many as the rest
allows. -/
def wildLength (covers : Char → Bool) (rest : List Char → Option Nat) : List Char → Option Nat
  | [] => rest []
  | c :: s =>
    if covers c then
      match wildLength covers rest s with
      | some n => some (n + 1)
      | none => rest (c :: s)
    else rest (c :: s)

/-- How many characters the pieces match at the start of a text. -/
def matchLength : List Piece → List Char → Option Nat
  | [], _ => some 0
  | .char d :: ps, s =>
    match s with
    | c :: s => if d = c then (matchLength ps s).map (· + 1) else none
    | [] => none
  | .segment :: ps, s => wildLength Piece.segment.covers (matchLength ps) s
  | .any :: ps, s => wildLength Piece.any.covers (matchLength ps) s

/-- Where the leftmost match from a position on starts and ends. -/
def matchFrom (ps : List Piece) (start : Nat) (s : List Char) : Option (Nat × Nat) :=
  match matchLength ps s, s with
  | some n, _ => some (start, start + n)
  | none, [] => none
  | none, _ :: s => matchFrom ps (start + 1) s

/-- Where the leftmost match of a pattern in a text starts and ends. -/
def firstMatch (pattern text : String) : Option (Nat × Nat) :=
  matchFrom (pieces pattern.toList) 0 text.toList

/-- Whether a pattern matches anywhere in a text. -/
def occurs (pattern text : String) : Bool := (firstMatch pattern text).isSome

end BuildRepair.Glob
