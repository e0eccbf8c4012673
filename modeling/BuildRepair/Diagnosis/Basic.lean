import BuildRepair.Diagnosis.Category
import BuildRepair.Remedy.Basic

/-
  Diagnoses: classified build errors. Two errors with one `pattern` count as the same fault, also
  across runs and repositories.
-/

namespace BuildRepair

/-- A classified build error. -/
structure Diagnosis where
  category : Category
  message : String
  priority : Int
  package : Option String := none
  constraint : Option String := none
  conflicts : Option (List String) := none
  suggested : Option Remedy := none
deriving Repr, Inhabited

namespace Diagnosis

/-- The package at fault, unless it is unknown or its name is empty. -/
def namedPackage (d : Diagnosis) : Option String := d.package.filter (· != "")

/-- What identifies the fault: its category and package. -/
def pattern (d : Diagnosis) : String := d.category.name ++ ":" ++ d.namedPackage.getD "none"

/-- What identifies the fault within one run. -/
structure Key where
  category : Category
  package : Option String
deriving DecidableEq, Repr

/-- The key of a diagnosis. -/
def key (d : Diagnosis) : Key := ⟨d.category, d.package⟩

end Diagnosis
end BuildRepair
