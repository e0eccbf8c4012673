import BuildRepair.Remedy.Basic
import BuildRepair.Time.Timestamp

/-
  Fix histories: which remedy worked for which fault of a repository. `record` keeps one entry per
  fault. A success of the same shape as the entry's remedy counts up, any other one takes its
  place.
-/

namespace BuildRepair

/-- A remedy that worked for a fault. -/
structure Fix where
  /-- The pattern of the fault; one read from a file may be any value. -/
  pattern : Json
  remedy : Remedy
  count : Int
  lastUsed : Timestamp
deriving Repr

namespace Fix

/-- A fix after one more success for its fault. -/
def succeed (f : Fix) (remedy : Remedy) (now : Timestamp) : Fix :=
  if f.remedy.sameShape remedy then { f with count := f.count + 1, lastUsed := now }
  else { f with remedy, count := 1, lastUsed := now }

/-- Whether a fix comes before another one: more successes first, then later use. -/
def outranks (a b : Fix) : Bool :=
  b.count < a.count || (a.count == b.count && !a.lastUsed.before b.lastUsed)

end Fix

/-- The fixes that worked for one repository. -/
structure History where
  /-- The repository; one read from a file may be any value. -/
  repo : Json
  fixes : List Fix
  lastRun : Timestamp
deriving Repr

namespace History

/-- The history of a repository that has none yet. -/
def empty (repo : String) (now : Timestamp) : History := ⟨.str repo, [], now⟩

/-- The remedy of the first fix for a fault. -/
def remedyFor (h : History) (pattern : String) : Option Remedy :=
  (h.fixes.find? (·.pattern == .str pattern)).map (·.remedy)

/-- Fixes after a success: the first fix for the fault changes, or a new one comes last. -/
def recordIn (pattern : String) (remedy : Remedy) (now : Timestamp) : List Fix → List Fix
  | [] => [⟨.str pattern, remedy, 1, now⟩]
  | f :: fs =>
    if f.pattern == .str pattern then f.succeed remedy now :: fs
    else f :: recordIn pattern remedy now fs

/-- A history after a remedy worked for a fault. -/
def record (h : History) (pattern : String) (remedy : Remedy) (now : Timestamp) : History :=
  { h with fixes := recordIn pattern remedy now h.fixes, lastRun := now }

/-- The fixes by successes and then by last use, the most promising first. -/
def prioritized (h : History) : List Fix := h.fixes.mergeSort Fix.outranks

end History
end BuildRepair
