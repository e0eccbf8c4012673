import BuildRepair.History.Basic
import BuildRepair.Json.Printer
import BuildRepair.Text.Numeral
import BuildRepair.Time.Iso

/-
  The stored form of fix histories. Points in time are written as objects with a tag, wherever they
  stand. In a text that is read, every object with the tag is a point in time, and the points of a
  history itself may also be plain texts.
-/

namespace BuildRepair

/-- A point in time with its tag. -/
def Timestamp.toJson (t : Timestamp) : Json :=
  .obj [("__type", .str "Date"), ("value", .str t.text)]

/-- The point in time that a text denotes. -/
def Timestamp.ofText (s : String) : Except Failure Timestamp :=
  match Timestamp.read s with
  | .ok t => .ok t
  | .error .malformed => .error .notNumeral
  | .error .outOfRange => .error .dateOutOfRange

/-- The point in time that a value denotes. -/
def Timestamp.ofJson : Json → Except Failure Timestamp
  | .date t => .ok t
  | .str s => Timestamp.ofText s
  | _ => .error .wrongKind

namespace Json

mutual
/-- A value with the points in time in it as tagged objects. -/
def tagDates : Json → Json
  | .date t => t.toJson
  | .arr items => .arr (tagItems items)
  | .obj fields => .obj (tagFields fields)
  | j => j
/-- Items with the points in time in them as tagged objects. -/
def tagItems : List Json → List Json
  | [] => []
  | x :: xs => tagDates x :: tagItems xs
/-- Fields with the points in time in them as tagged objects. -/
def tagFields : Fields → Fields
  | [] => []
  | (k, x) :: fs => (k, tagDates x) :: tagFields fs
end

/-- The value of an object: with the tag it has to hold a point in time and is that point. -/
def ofTagged (fields : Fields) : Except Failure Json :=
  match Assoc.find? "__type" fields, Assoc.find? "value" fields with
  | some (.str "Date"), some value => (Timestamp.ofJson value).map .date
  | _, _ => .ok (.obj fields)

end Json

namespace History

/-- The fields of an object. -/
def fieldsOf : Json → Except Failure Fields
  | .obj fields => .ok fields
  | _ => .error .wrongKind

/-- A field that must be there. -/
def required (fields : Fields) (name : String) : Except Failure Json :=
  match Assoc.find? name fields with
  | some j => .ok j
  | none => .error .missingField

/-- A count: a number without its fraction, a truth value, or the text of an integer. -/
def readCount : Json → Except Failure Int
  | .int n => .ok n
  | .bool b => .ok (if b then 1 else 0)
  | .real (.infinite _) => .error .infiniteCount
  | .real x =>
    match x.truncate? with
    | some n => .ok n
    | none => .error .notNumeral
  | .str s =>
    match Text.readInteger? s.toList with
    | some n => .ok n
    | none => .error .notNumeral
  | _ => .error .wrongKind

/-- One stored fix. -/
def readFix (j : Json) : Except Failure Fix := do
  let fields ← fieldsOf j
  let pattern ← required fields "errorPattern"
  let remedy ← Remedy.ofJson (← required fields "strategy")
  let count ← readCount (← required fields "successCount")
  let lastUsed ← Timestamp.ofJson (← required fields "lastUsed")
  return { pattern, remedy, count, lastUsed }

/-- What a list of fixes holds; an empty text or object is as good as an empty list. -/
def itemsOf : Json → Except Failure (List Json)
  | .arr items => .ok items
  | .obj [] => .ok []
  | .str s => if s = "" then .ok [] else .error .wrongKind
  | _ => .error .wrongKind

/-- The history that a document holds. -/
def ofJson (j : Json) : Except Failure History := do
  let fields ← fieldsOf j
  let repo ← required fields "repoId"
  let items ← itemsOf ((Assoc.find? "fixes" fields).getD (.arr []))
  let fixes ← items.mapM readFix
  let lastRun ← Timestamp.ofJson (← required fields "lastResurrection")
  return { repo, fixes, lastRun }

/-- The history in the text of a file. -/
def ofText (text : String) : Except Failure History :=
  match Json.readWith Json.ofTagged .notJson text with
  | .error e => .error e
  | .ok j => ofJson j

/-- The stored form of a fix. -/
def fixJson (f : Fix) : Except Failure Json := do
  let remedy ← f.remedy.toJson
  return .obj [
    ("errorPattern", f.pattern), ("strategy", remedy), ("successCount", .int f.count),
    ("lastUsed", .date f.lastUsed)]

/-- The stored form of a history. -/
def toJson (h : History) : Except Failure Json := do
  let fixes ← h.fixes.mapM fixJson
  return .obj [("repoId", h.repo), ("fixes", .arr fixes), ("lastResurrection", .date h.lastRun)]

/-- Whether an integer has more digits than can be written. -/
def isTooLong (n : Int) : Bool := Binary64.tenPow Json.integerDigitLimit ≤ n.natAbs

/-- The text of a history file. Only a count can have grown beyond what can be written; every other
number was read from a document. -/
def toText (h : History) : Except Failure String := do
  let j ← h.toJson
  if h.fixes.any (isTooLong ·.count) then throw (.notJson (.integerTooLong none))
  return j.tagDates.document

end History
end BuildRepair
