import BuildRepair.Build.Outcome
import BuildRepair.Diagnosis.Report
import BuildRepair.Remedy.Application

/-
  The records of a repair run: its options, how it ends, which fixes it applied, and what it tells
  an observer while it goes on.
-/

namespace BuildRepair

/-- What a caller may choose for a run; whatever is left out has a default or is detected. -/
structure RepairOptions where
  maxIterations : Option Int := none
  timeout : Option Seconds := none
  /-- A package manager, or `auto`. -/
  manager : String := "auto"
  command : Option String := none
deriving Inhabited

/-- How a run ends. -/
inductive RepairOutcome where
  | succeeded
  | outOfIterations
  /-- A build failed without an error that could be told apart. -/
  | unparsable
  | noBuildTarget
deriving DecidableEq, Repr, Inhabited

/-- The name of an outcome in reports. -/
def RepairOutcome.name : RepairOutcome → String
  | .succeeded => "succeeded"
  | .outOfIterations => "failed_max_iterations"
  | .unparsable => "failed_unparsable"
  | .noBuildTarget => "skipped_no_build_target"

/-- Whether an outcome leaves nothing to repair. -/
def RepairOutcome.isSuccess : RepairOutcome → Bool
  | .succeeded | .noBuildTarget => true
  | .outOfIterations | .unparsable => false

/-- Where a run stands. -/
inductive RepairPhase where
  | idle
  | iterating
  | finished (outcome : RepairOutcome)
deriving DecidableEq, Repr, Inhabited

/-- The name of a phase in reports. -/
def RepairPhase.name : RepairPhase → String
  | .idle => "idle"
  | .iterating => "iterating"
  | .finished outcome => outcome.name

/-- A remedy that was applied for a fault. -/
structure AppliedFix where
  iteration : Nat
  fault : Diagnosis
  result : Application
deriving Repr

/-- One attempt at a fault, with the number of errors before it and after the next build. -/
structure FixAttempt where
  remedy : Remedy
  iteration : Nat
  before : Nat
  after : Nat
  time : Timestamp
  success : Bool
deriving Repr

/-- An error as an observer sees it. -/
structure ErrorBrief where
  category : Category
  message : String
  package : Option String
  priority : Int
deriving DecidableEq, Repr

/-- What an observer is told. -/
inductive RepairEvent where
  | iterationStarted (iteration : Nat) (limit : Int) (repo : String)
  | errorsAnalyzed (iteration count : Nat) (byCategory : List (Category × Nat))
      (top : List ErrorBrief)
  | fixChosen (iteration : Nat) (remedy : Remedy) (target : Category) (description : String)
  | fixEnded (iteration : Nat) (success : Bool) (remedy : Remedy) (error : Option String)
  | completed (success : Bool) (iterations fixes successful remaining : Nat) (summary : String)
  | noBuildTarget (repo reason : String)
deriving Repr

/-- How much a line of the log matters. -/
inductive LogLevel where
  | info
  | warning
  | error
deriving DecidableEq, Repr

/-- The name of a level. -/
def LogLevel.name : LogLevel → String
  | .info => "INFO"
  | .warning => "WARNING"
  | .error => "ERROR"

/-- A line of the log. -/
structure LogLine where
  level : LogLevel
  text : String
deriving DecidableEq, Repr

/-- One build that was asked for. -/
structure BuildCall where
  manager : String
  command : String
  timeout : Seconds
deriving DecidableEq, Repr

/-- What runs the builds of a run: the `n`-th one, counted from zero, for a call. -/
abbrev Builder := BuildCall → Nat → Except Failure BuildResult

/-- A builder whose builds are known beforehand. -/
def Builder.scripted (builds : Nat → BuildResult) : Builder := fun _ n => .ok (builds n)

/-- The first characters of a text. -/
def cut (n : Nat) (s : String) : String := String.ofList (s.toList.take n)

/-- How many diagnoses there are of each category, in the order of their first ones. -/
def countByCategory (ds : List Diagnosis) : List (Category × Nat) :=
  ds.foldl
    (fun counts d => Assoc.put d.category ((Assoc.find? d.category counts).getD 0 + 1) counts) []

/-- A diagnosis as an observer sees it. -/
def ErrorBrief.of (d : Diagnosis) : ErrorBrief :=
  ⟨d.category, cut 200 d.message, d.package, d.priority⟩

end BuildRepair
