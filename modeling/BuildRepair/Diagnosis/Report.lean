import BuildRepair.Diagnosis.Block
import BuildRepair.Diagnosis.Classify
import BuildRepair.Diagnosis.Extract
import BuildRepair.Remedy.Choice

/-
  The errors of a build log: one diagnosis per block that is not mere progress, those of one
  pattern merged, the most urgent first.
-/

namespace BuildRepair.Diagnosis

/-- The diagnosis of one message. -/
def ofMessage (message : List Char) : Diagnosis :=
  let category := Category.ofMessage message
  let mention := mention category message
  let d : Diagnosis :=
    { category, message := Text.trimString (String.ofList message), priority := category.priority
      package := mention.map (·.name), constraint := mention.bind (·.version)
      conflicts := mention.bind (·.conflicts) }
  { d with suggested := d.remedies.head? }

/-- Whether a message only reports progress: noise of no known category. -/
def isProgress (message : List Char) : Bool :=
  Category.ofMessage message == .unknown && isNoise message

/-- The conflicts of a later diagnosis added to those of the first one of its pattern. -/
def absorb (first later : Diagnosis) : Diagnosis :=
  match later.conflicts with
  | none | some [] => first
  | some more =>
    let merged := more.foldl (fun known p => if known.contains p then known else known ++ [p])
      (first.conflicts.getD [])
    { first with conflicts := some merged }

/-- Adds a diagnosis to those of other patterns, or merges it into the one of its pattern. -/
def merge (known : List Diagnosis) (d : Diagnosis) : List Diagnosis :=
  if known.any (·.pattern == d.pattern) then
    known.map fun k => if k.pattern == d.pattern then absorb k d else k
  else known ++ [d]

/-- One diagnosis for each pattern, in the order of their first ones. -/
def distinct (ds : List Diagnosis) : List Diagnosis := ds.foldl merge []

/-- Diagnoses by falling priority; those of one priority keep their order. -/
def byPriority (ds : List Diagnosis) : List Diagnosis :=
  ds.mergeSort fun a b => decide (b.priority ≤ a.priority)

/-- The errors that a build log reports. -/
def ofLog (log : List Char) : List Diagnosis :=
  byPriority (distinct (((messages log).filter (!isProgress ·)).map ofMessage))

/-- The errors of a build by what it printed on its two streams. -/
def ofStreams (out err : String) : List Diagnosis := ofLog (out ++ "\n" ++ err).toList

end BuildRepair.Diagnosis
