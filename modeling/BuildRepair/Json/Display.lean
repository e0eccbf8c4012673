import BuildRepair.Json.Value
import BuildRepair.Decimal.Shortest
import BuildRepair.Text.Line
import BuildRepair.Text.Quoted

/-
  Values inside plain text. `display` gives a string as it is and every other value as messages
  spell it: `None`, `True` and `False` for the constants, strings within a value in quotes. A point
  in time alone is shown with a blank between date and time, within a value by its numbers.
-/

namespace BuildRepair.Json

/-- A point in time by its numbers; the last ones are left out if they are zero. -/
def spellDate (t : Timestamp) : List Char :=
  let rest :=
    if t.micro ≠ 0 then [t.second, t.micro] else if t.second ≠ 0 then [t.second] else []
  let numbers := [t.date.year, t.date.month, t.date.day, t.hour, t.minute] ++ rest
  "datetime.datetime(".toList ++ Text.joinWith [',', ' '] (numbers.map Text.natText) ++ [')']

mutual
/-- A value as a message spells it, strings in quotes. -/
def spell : Json → List Char
  | .null => ['N', 'o', 'n', 'e']
  | .bool true => ['T', 'r', 'u', 'e']
  | .bool false => ['F', 'a', 'l', 's', 'e']
  | .int n => Text.intText n
  | .real x => (x.textWith "inf" "nan").toList
  | .str s => Text.quoted s.toList
  | .arr items => '[' :: spellItems true items ++ [']']
  | .obj fields => '\x7b' :: spellFields true fields ++ ['\x7d']
  | .date t => spellDate t
/-- Items with commas between them. -/
def spellItems (first : Bool) : List Json → List Char
  | [] => []
  | x :: xs => (if first then [] else [',', ' ']) ++ spell x ++ spellItems false xs
/-- Fields with commas between them. -/
def spellFields (first : Bool) : List (String × Json) → List Char
  | [] => []
  | (k, x) :: fs =>
    (if first then [] else [',', ' ']) ++ Text.quoted k.toList ++ ':' :: ' ' :: spell x ++
      spellFields false fs
end

/-- What kind of value a value is, as messages name it. -/
def kindName : Json → String
  | .null => "NoneType"
  | .bool _ => "bool"
  | .int _ => "int"
  | .real _ => "float"
  | .str _ => "str"
  | .arr _ => "list"
  | .obj _ => "dict"
  | .date _ => "datetime.datetime"

/-- A value in quotes where it is a string. -/
def spelled (j : Json) : String := String.ofList (spell j)

/-- A value as part of a text: a string is itself. -/
def display : Json → String
  | .str s => s
  | .date t => t.textWith ' '
  | j => j.spelled

end BuildRepair.Json
