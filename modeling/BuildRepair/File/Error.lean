import BuildRepair.File.Path
import BuildRepair.Text.Quoted
import BuildRepair.Text.Utf8

/-
  Why an operation on files fails. The system's reasons carry their number and wording, and a
  message quotes the path as it was given.
-/

namespace BuildRepair

/-- A reason that the file system gives. -/
inductive FileCause where
  | missing
  | exists
  | notDirectory
  | isDirectory
  | nameTooLong
deriving DecidableEq, Repr

/-- A failed operation on files. -/
inductive FileError where
  /-- The system refused, naming the path. -/
  | system (cause : FileCause) (path : String)
  /-- A path holds the character that ends texts in the system. -/
  | nullCharacter
  /-- A path holds halves of characters that cannot be part of a name. -/
  | unencodable (e : Text.Utf8.Unencodable)
deriving DecidableEq, Repr

/-- The system's number of a cause. -/
def FileCause.number : FileCause → Nat
  | .missing => 2
  | .exists => 17
  | .notDirectory => 20
  | .isDirectory => 21
  | .nameTooLong => 36

/-- The system's wording of a cause. -/
def FileCause.wording : FileCause → String
  | .missing => "No such file or directory"
  | .exists => "File exists"
  | .notDirectory => "Not a directory"
  | .isDirectory => "Is a directory"
  | .nameTooLong => "File name too long"

/-- A number, a wording and a path as one message. -/
def systemMessage (number : Int) (wording : String) (path : Option String) : String :=
  "[Errno " ++ toString number ++ "] " ++ wording ++
    (path.elim "" fun p => ": " ++ Text.quotedString p)

/-- A failure in words. -/
def FileError.message : FileError → String
  | .system cause path => systemMessage cause.number cause.wording (some path)
  | .nullCharacter => "embedded null byte"
  | .unencodable e => e.message

end BuildRepair
