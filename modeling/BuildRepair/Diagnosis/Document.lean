import BuildRepair.Diagnosis.Basic

/-
  Diagnoses as JSON, for programs that read reports.
-/

namespace BuildRepair.Diagnosis

/-- A text or null. -/
def textOrNull (s : Option String) : Json := s.elim .null .str

/-- The fields of a diagnosis in a report. -/
def fields (d : Diagnosis) : List (String × Json) := [
  ("category", .str d.category.name),
  ("priority", .int d.priority),
  ("package", textOrNull d.package),
  ("version_constraint", textOrNull d.constraint),
  ("conflicting_packages", d.conflicts.elim .null fun ps => .arr (ps.map .str)),
  ("suggested_fix", d.suggested.elim .null Remedy.stored),
  ("message", .str d.message)]

/-- A diagnosis in a report. -/
def toJson (d : Diagnosis) : Json := .obj d.fields

end BuildRepair.Diagnosis
