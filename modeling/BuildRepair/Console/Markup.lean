import BuildRepair.Console.Pictograph
import BuildRepair.Console.Style

/-
  Markup in printed text. A tag in square brackets sets a style and is not shown; it starts with a
  small letter, `#`, `/` or `@`. A backslash before a bracket keeps the bracket. A closing tag
  needs an open one of its style, or any open one if it has no name. In the text between two tags
  names of pictographs are replaced.
-/

namespace BuildRepair.Console

/-- Characters that a tag may start with. -/
def startsTag (c : Char) : Bool := ('a' ≤ c && c ≤ 'z') || c == '#' || c == '/' || c == '@'

/-- The inside of a tag whose opening bracket was read, and the rest. -/
def readTag : List Char → Option (List Char × List Char)
  | [] => none
  | c :: s =>
    if startsTag c then
      match s.dropWhile fun c => c != '[' && c != ']' with
      | ']' :: rest => some (c :: s.takeWhile fun c => c != '[' && c != ']', rest)
      | _ => none
    else none

theorem readTag_length {s tag rest : List Char} (h : readTag s = some (tag, rest)) :
    rest.length < s.length := by
  unfold readTag at h
  split at h
  · cases h
  · rename_i c s
    split at h
    · split at h
      · rename_i r hd
        cases h
        have := (List.dropWhile_sublist (fun c => c != '[' && c != ']') (l := s)).length_le
        simp only [hd, List.length_cons] at this ⊢
        omega
      · cases h
    · cases h

/-- A piece of a text with markup. -/
inductive Piece where
  | plain (s : List Char)
  | tag (s : List Char)
deriving DecidableEq, Repr

/-- A plain piece, unless it is empty. -/
def plainPiece (s : List Char) : List Piece := if s = [] then [] else [.plain s]

/-- The pieces of a text, when `plain` was read since the last one. Of two backslashes before a tag
one is shown, and an odd one keeps the tag as it stands. -/
def piecesFrom (plain s : List Char) : List Piece :=
  let slashes := (s.takeWhile (· == '\\')).length
  match h : s.dropWhile (· == '\\') with
  | [] => plainPiece (plain ++ List.replicate slashes '\\')
  | c :: inner =>
    have hi : inner.length < s.length := by
      have := (List.dropWhile_sublist (· == '\\') (l := s)).length_le
      simp only [h, List.length_cons] at this
      omega
    if c = '[' then
      match ht : readTag inner with
      | none => piecesFrom (plain ++ List.replicate (slashes - 1) '\\' ++ ['[']) inner
      | some (tag, rest) =>
        have hr : rest.length < s.length := Nat.lt_trans (readTag_length ht) hi
        let kept := if slashes % 2 = 1 then Piece.plain ('[' :: tag ++ [']']) else .tag tag
        plainPiece plain ++ plainPiece (List.replicate (slashes / 2) '\\') ++
          kept :: piecesFrom [] rest
    else piecesFrom (plain ++ List.replicate slashes '\\' ++ [c]) inner
  termination_by s.length

/-- The name under which a style is opened and closed. -/
def styleName (tag : List Char) : List Char := normalName (tag.takeWhile (· != '='))

/-- The open styles after a tag; none if the tag closes a style that is not open. -/
def follow (tag : List Char) (styles : List (List Char)) : Option (List (List Char)) :=
  match tag with
  | '/' :: closed =>
    if Text.trim (closed.takeWhile (· != '=')) = [] then
      match styles with
      | [] => none
      | _ :: outer => some outer
    else
      let name := styleName closed
      if styles.contains name then some (styles.erase name) else none
  | tag => some (styleName tag :: styles)

/-- What is shown of pieces while some styles are open, the last opened one first. -/
def shownPieces (styles : List (List Char)) : List Piece → Option (List Char)
  | [] => some []
  | .plain s :: rest => (shownPieces styles rest).map (withPictographs s ++ ·)
  | .tag tag :: rest =>
    match follow tag styles with
    | none => none
    | some styles => shownPieces styles rest

/-- What is shown of a text; none if a tag closes a style that is not open. -/
def shown (s : List Char) : Option (List Char) := shownPieces [] (piecesFrom [] s)

end BuildRepair.Console
