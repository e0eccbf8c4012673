import BuildRepair.History.Basic
import BuildRepair.Remedy.Choice

/-
  Which remedy comes next for a fault. A rotation remembers what was tried for which fault in one
  run. The remedy that history has for the fault comes first, then those the diagnosis calls for,
  and the last resort when all were tried.
-/

namespace BuildRepair

/-- The remedies that were tried in a run, each with the fault it was tried for. -/
structure Rotation where
  tried : List (Diagnosis.Key × Remedy.Key) := []
deriving Inhabited

namespace Rotation

/-- The key under which a remedy is remembered for a fault. A remedy with an array or object as a
field cannot be remembered. -/
def keyOf (d : Diagnosis) (r : Remedy) : Except Failure (Diagnosis.Key × Remedy.Key) :=
  match r.key with
  | .error e => .error e
  | .ok k =>
    match k.bad? with
    | none => .ok (d.key, k)
    | some field => .error (.notKey field)

/-- Whether a remedy was tried for a fault. -/
def hasTried (s : Rotation) (d : Diagnosis) (r : Remedy) : Except Failure Bool :=
  (keyOf d r).map fun k => s.tried.any fun q => q.1 == k.1 && q.2 == k.2

/-- The rotation after a remedy was tried for a fault. -/
def mark (s : Rotation) (d : Diagnosis) (r : Remedy) : Except Failure Rotation :=
  (keyOf d r).map fun k => ⟨k :: s.tried⟩

/-- The first remedy of a list that was not tried for a fault. -/
def firstUntried (s : Rotation) (d : Diagnosis) : List Remedy → Except Failure (Option Remedy)
  | [] => .ok none
  | r :: rs =>
    match s.hasTried d r with
    | .error e => .error e
    | .ok false => .ok (some r)
    | .ok true => firstUntried s d rs

/-- Whether some remedy that a diagnosis calls for was not tried. -/
def hasUntried (s : Rotation) (d : Diagnosis) : Except Failure Bool :=
  (s.firstUntried d d.remedies).map (·.isSome)

/-- The next remedy for a fault. -/
def select (s : Rotation) (d : Diagnosis) (history : Option History) : Except Failure Remedy :=
  let known := history.bind (·.remedyFor d.pattern)
  (s.firstUntried d (known.toList ++ d.remedies)).map (·.getD Remedy.lastResort)

end Rotation
end BuildRepair
