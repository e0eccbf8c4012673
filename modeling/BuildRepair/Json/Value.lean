import BuildRepair.Assoc
import BuildRepair.Decimal.Binary64
import BuildRepair.Time.Timestamp

/-
  JSON values. Objects keep their fields in order, integers are unbounded and other numbers are
  doubles. A document whose reader knows points in time may hold them too, wherever a value may
  stand. `same` is the equality of values: numbers and truth values by the number they denote
  (`true` is 1), arrays element by element, objects whatever the order of their fields.
-/

namespace BuildRepair

/-- A JSON value. -/
inductive Json where
  | null
  | bool (b : Bool)
  | int (n : Int)
  | real (x : Binary64)
  | str (s : String)
  | arr (items : List Json)
  | obj (fields : List (String × Json))
  /-- A point in time, which is written in a form of its own or not at all. -/
  | date (t : Timestamp)
deriving Inhabited, Repr

/-- The fields of an object in order. -/
abbrev Fields := List (String × Json)

namespace Json

/-- The fields of an object. -/
def fields? : Json → Option Fields
  | .obj fields => some fields
  | _ => none

/-- The text of a string. -/
def str? : Json → Option String
  | .str s => some s
  | _ => none

/-- A field of an object. -/
def field? (name : String) (j : Json) : Option Json :=
  j.fields?.bind (Assoc.find? name)

/-- Whether a value counts as present: null, false, zeros and everything empty do not. -/
def truthy : Json → Bool
  | .null => false
  | .bool b => b
  | .int n => n != 0
  | .real x => !x.isZero
  | .str s => s != ""
  | .arr items => !items.isEmpty
  | .obj fields => !fields.isEmpty
  | .date _ => true

/-- Whether a value can serve as a key: arrays and objects cannot. -/
def isKey : Json → Bool
  | .arr _ => false
  | .obj _ => false
  | _ => true

/-- The integer that a truth value or integer denotes. -/
def integer? : Json → Option Int
  | .bool b => some (if b then 1 else 0)
  | .int n => some n
  | _ => none

/-- Whether two values without parts denote the same. -/
def sameAtom : Json → Json → Bool
  | .null, .null => true
  | .str s, .str t => s == t
  | .date s, .date t => s == t
  | .real x, .real y => x.sameNumber y
  | .real x, b => b.integer?.any x.isInt
  | a, .real y => a.integer?.any y.isInt
  | a, b =>
    match a.integer?, b.integer? with
    | some m, some n => m == n
    | _, _ => false

mutual
/-- Whether two values denote the same. -/
def same : Json → Json → Bool
  | .arr xs, .arr ys => sameItems xs ys
  | .obj xs, .obj ys => xs.length == ys.length && sameFields xs ys
  | a, b => sameAtom a b
/-- Whether two arrays hold the same values one by one. -/
def sameItems : List Json → List Json → Bool
  | [], [] => true
  | x :: xs, y :: ys => same x y && sameItems xs ys
  | _, _ => false
/-- Whether every field has the same value in another object. -/
def sameFields : Fields → Fields → Bool
  | [], _ => true
  | (k, x) :: xs, ys => (Assoc.find? k ys).elim false (same x) && sameFields xs ys
end

instance : BEq Json := ⟨same⟩

mutual
/-- Whether a point in time stands anywhere in a value. -/
def holdsDate : Json → Bool
  | .date _ => true
  | .arr items => itemsHoldDate items
  | .obj fields => fieldsHoldDate fields
  | _ => false
/-- Whether a point in time stands anywhere in some items. -/
def itemsHoldDate : List Json → Bool
  | [] => false
  | x :: xs => holdsDate x || itemsHoldDate xs
/-- Whether a point in time stands anywhere in some fields. -/
def fieldsHoldDate : Fields → Bool
  | [] => false
  | (_, x) :: fs => holdsDate x || fieldsHoldDate fs
end

mutual
/-- Every string and every name of a field in a value. -/
def texts : Json → List String
  | .str s => [s]
  | .arr items => textsOfItems items
  | .obj fields => textsOfFields fields
  | _ => []
/-- Every string and every name of a field in some items. -/
def textsOfItems : List Json → List String
  | [] => []
  | x :: xs => texts x ++ textsOfItems xs
/-- Every string and every name of a field in some fields. -/
def textsOfFields : Fields → List String
  | [] => []
  | (k, x) :: fs => k :: texts x ++ textsOfFields fs
end

/-- Whether a value is not a number. -/
def isNan : Json → Bool
  | .real .nan => true
  | _ => false

/-- Equality as a comparison sees it: what is not a number differs even from itself. -/
def equals (a b : Json) : Bool := !a.isNan && a == b

@[simp]
theorem str_beq_str (s t : String) : (Json.str s == Json.str t) = (s == t) := by
  simp [BEq.beq, same, sameAtom]

end Json
end BuildRepair
