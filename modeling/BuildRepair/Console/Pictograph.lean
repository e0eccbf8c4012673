import BuildRepair.Console.PictographTable
import BuildRepair.Text.Line

/-
  Pictographs by name. A name between two colons, such as `:rocket:`, is shown as its pictograph; a
  name that stands for none is shown as it is. The name may end in the form to show it in.
-/

namespace BuildRepair.Console

/-- The pictograph of a name among names and pictographs in turn. -/
def pictographIn (name : List Char) : List (List Char) → Option (List Char)
  | key :: shown :: rest => if key = name then some shown else pictographIn name rest
  | _ => none

/-- The ends of names that choose a form, with the mark that follows the pictograph. -/
def forms : List (String × Nat) := [("-text", 0xFE0E), ("-emoji", 0xFE0F)]

/-- A name without the form it ends in, and the mark of the form. -/
def splitForm (name : List Char) : List Char × List Char :=
  match forms.find? fun f => f.1.toList.isSuffixOf name with
  | some (ending, mark) => (name.take (name.length - ending.length), [Char.ofNat mark])
  | none => (name, [])

/-- The pictograph that a name stands for, in small letters or not. -/
def pictograph? (name : List Char) : Option (List Char) :=
  let (name, mark) := splitForm name
  let name := Text.lowerText name
  (pictographLines.findSome? fun line => pictographIn name (Text.splitOn ' ' line.toList)).map
    (· ++ mark)

/-- Characters of a name. -/
def inName (c : Char) : Bool := c != ':' && !Text.isBlank c

/-- A name that a colon ends, and the rest of the text; the colon before it was read. -/
def nameUpToColon? (s : List Char) : Option (List Char × List Char) :=
  match s.dropWhile inName with
  | ':' :: rest => some (s.takeWhile inName, rest)
  | _ => none

theorem nameUpToColon?_length {s name rest : List Char}
    (h : nameUpToColon? s = some (name, rest)) : rest.length < s.length := by
  unfold nameUpToColon? at h
  split at h
  · rename_i r hd
    cases h
    have := (List.dropWhile_sublist inName (l := s)).length_le
    simp only [hd, List.length_cons] at this
    omega
  · cases h

/-- A text with pictographs for their names. -/
def withPictographs : List Char → List Char
  | [] => []
  | c :: s =>
    if c = ':' then
      match h : nameUpToColon? s with
      | none => ':' :: withPictographs s
      | some (name, rest) =>
        have : rest.length < s.length := nameUpToColon?_length h
        (pictograph? name).getD (':' :: name ++ [':']) ++ withPictographs rest
    else c :: withPictographs s
  termination_by s => s.length

end BuildRepair.Console
