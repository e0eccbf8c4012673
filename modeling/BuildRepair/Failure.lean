import BuildRepair.File.Error
import BuildRepair.Json.Reader
import BuildRepair.Json.Display
import BuildRepair.Text.Utf8

/-
  Every way in which an operation of the library fails, by cause. `message` is the one place
  where causes are put into words; those that only arise while a stored document is read, and
  there count as no document at all, have none.
-/

namespace BuildRepair

/-- Why an operation fails. -/
inductive Failure where
  /-- The file system refused. -/
  | file (e : FileError)
  /-- A text file holds bytes that are no text. -/
  | notText (e : Text.Utf8.Invalid)
  /-- A text holds halves of characters where its bytes are needed. -/
  | notEncodable (e : Text.Utf8.Unencodable)
  /-- A document is not JSON, or holds a number that cannot be written. -/
  | notJson (e : Json.ReadError)
  /-- A manifest is JSON, but no object. -/
  | notObject
  /-- A stored remedy is of no known type. -/
  | unknownType (type : Json)
  /-- Something that is no remedy was used as one. -/
  | notRemedy (text : String)
  /-- An array or object was used as a key. -/
  | notKey (value : Json)
  /-- Something other than a text was used as the name of a file. -/
  | notFileName (value : Json)
  /-- A point in time stands in a document that has no form for it. -/
  | dateInDocument
  /-- A point in time was used as the name of a field. -/
  | dateAsName
  /-- A value of some kind lacks what was asked of it. -/
  | lacks (kindName part : String)
  /-- A value has another kind than the document requires. -/
  | wrongKind
  /-- A field is missing from an object. -/
  | missingField
  /-- A count is infinite. -/
  | infiniteCount
  /-- A count is no number. -/
  | undefinedCount
  /-- A whole number is beyond every double. -/
  | immenseCount
  /-- A time cannot be counted in nanoseconds. -/
  | immenseTime
  /-- A time is longer than the system waits. -/
  | longWait
  /-- A date lies outside the years 1 to 9999. -/
  | dateOutOfRange
  /-- A text is no number or no date. -/
  | notNumeral
  /-- A command has a quote that is not closed. -/
  | unclosedQuote
  /-- A command ends in a backslash. -/
  | danglingEscape
  /-- The replacement registry could not be written. -/
  | registryUnsaved (e : FileError)
deriving Repr

/-- Whether a failure comes from a value of the wrong kind, and not from a file or a text. -/
def Failure.isKindError : Failure → Bool
  | .notRemedy _ | .notKey _ | .notFileName _ | .dateInDocument | .dateAsName | .lacks ..
  | .wrongKind | .missingField | .infiniteCount | .dateOutOfRange => true
  | _ => false

/-- A failure in words. -/
def Failure.message : Failure → String
  | .file e => e.message
  | .notText e => e.message
  | .notEncodable e => e.message
  | .notJson e => e.message
  | .notObject => "package.json must contain a JSON object"
  | .unknownType type => "Unknown fix strategy type: " ++ type.spelled
  | .notRemedy text => "Unknown fix strategy: " ++ Text.quotedString text
  | .unclosedQuote => "No closing quotation"
  | .danglingEscape => "No escaped character"
  | .registryUnsaved e => "Failed to save registry: " ++ e.message
  | .notKey value => "unhashable type: " ++ Text.quotedString value.kindName
  | .notFileName value =>
    "unsupported operand type(s) for /: 'PosixPath' and " ++ Text.quotedString value.kindName
  | .dateInDocument => "Object of type datetime is not JSON serializable"
  | .dateAsName => "keys must be str, int, float, bool or None, not datetime"
  | .lacks kindName part =>
    Text.quotedString kindName ++ " object has no attribute " ++ Text.quotedString part
  | .infiniteCount => "cannot convert float infinity to integer"
  | .undefinedCount => "cannot convert float NaN to integer"
  | .immenseCount => "int too large to convert to float"
  | .immenseTime => "timestamp too large to convert to C _PyTime_t"
  | .longWait => "timeout is too large"
  | .dateOutOfRange => "date value out of range"
  | .wrongKind | .missingField | .notNumeral => ""

end BuildRepair
