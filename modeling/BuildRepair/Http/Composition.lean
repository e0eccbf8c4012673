import BuildRepair.Http.CompositionTable

/-
  One form for labels that look the same. A letter with marks may be one character or several, and
  its marks may stand in any order. `composed` takes characters apart, puts the marks on each letter
  in the order of their classes and makes one character of a letter and a mark wherever there is
  one; a label that it does not change is in that form.
-/

namespace BuildRepair.Url

/-- The class of a mark; zero for a character that begins a letter of its own. -/
def markClass (c : Char) : Nat :=
  ((markClasses.find? fun r => r.1 ≤ c.toNat && c.toNat ≤ r.2.1).map (·.2.2)).getD 0

/-- The most marks that one character has. -/
def markLimit : Nat := 3

/-- A character without marks, and the marks it had, `depth` of them at most. -/
def takeApart : (depth : Nat) → Char → List Char
  | 0, c => [c]
  | depth + 1, c =>
    match compositions.find? (·.1 == c.toNat) with
    | none => [c]
    | some (_, letter, mark) => takeApart depth (Char.ofNat letter) ++ [Char.ofNat mark]

/-- A character before a text, behind the marks there that are of a lower class than its own. -/
def placeMark (c : Char) : List Char → List Char
  | [] => [c]
  | d :: s =>
    if markClass d ≠ 0 ∧ markClass d < markClass c then d :: placeMark c s else c :: d :: s

/-- The character that a letter and a mark make. -/
def compose? (letter mark : Char) : Option Char :=
  (compositions.find? fun r => r.2.1 == letter.toNat && r.2.2 == mark.toNat).map
    (Char.ofNat ·.1)

/-- A letter, the marks on it that did not go into it, and the rest of a text. A mark goes into the
letter unless one of its class or a higher one stands between. -/
def composeFrom (letter : Char) (marks : List Char) : List Char → List Char
  | [] => letter :: marks
  | c :: s =>
    match if marks.getLast?.any (markClass c ≤ markClass ·) then none else compose? letter c with
    | some made => composeFrom made marks s
    | none =>
      if markClass c = 0 then letter :: marks ++ composeFrom c [] s
      else composeFrom letter (marks ++ [c]) s

/-- A label in the form with as few characters as there can be. -/
def composed (label : List Char) : List Char :=
  match (label.flatMap (takeApart markLimit)).foldr placeMark [] with
  | [] => []
  | c :: s => composeFrom c [] s

end BuildRepair.Url
