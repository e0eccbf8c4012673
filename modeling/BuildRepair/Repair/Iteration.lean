import BuildRepair.History.Memory
import BuildRepair.Remedy.Rotation
import BuildRepair.Repair.Basic

/-
  One iteration of a repair run: build, diagnose, choose a remedy for the most urgent error, apply
  it. `RepairState.step` says how the state changes and whether the run goes on.
-/

namespace BuildRepair

/-- What stays the same during a run. -/
structure RepairContext where
  repo : String
  limit : Int
  call : BuildCall
  builder : Builder
  now : Timestamp

/-- Where a run stands between two iterations. -/
structure RepairState where
  tree : Tree
  memory : Memory
  rotation : Rotation := {}
  iteration : Nat := 0
  calls : List BuildCall := []
  applied : List AppliedFix := []
  attempts : List FixAttempt := []
  /-- The errors of the last build that failed. -/
  errors : List Diagnosis := []
  /-- How many errors the last build had, if one failed. -/
  previous : Option Nat := none
  /-- How many builds in a row had as many errors as the one before. -/
  stalled : Nat := 0
  events : List RepairEvent := []
  log : List LogLine := []

/-- How an iteration ends. -/
inductive StepEnd where
  | next
  | succeeded (build : BuildResult)
  | unparsable
  | failed (e : Failure)

/-- Sets how many errors were left after the last attempt. -/
def settleLast (n : Nat) : List FixAttempt → List FixAttempt
  | [] => []
  | [a] => [{ a with after := n }]
  | a :: as => a :: settleLast n as

/-- A natural in decimal. -/
def decimal (n : Nat) : String := String.ofList (Text.natText n)

/-- An integer in decimal. -/
def signedDecimal (n : Int) : String := String.ofList (Text.intText n)

namespace RepairState

/-- Adds a line to the log. -/
def note (s : RepairState) (level : LogLevel) (text : String) : RepairState :=
  { s with log := s.log ++ [⟨level, text⟩] }

/-- Adds lines to the log. -/
def notes (s : RepairState) (lines : List LogLine) : RepairState := { s with log := s.log ++ lines }

/-- Tells the observer of an event. -/
def emit (s : RepairState) (e : RepairEvent) : RepairState := { s with events := s.events ++ [e] }

/-- Begins the next iteration. -/
def start (c : RepairContext) (s : RepairState) : RepairState :=
  let i := s.iteration + 1
  ({ s with iteration := i }.note .info
      ("Iteration " ++ decimal i ++ "/" ++ signedDecimal c.limit ++ " for " ++ c.repo)).emit
    (.iterationStarted i c.limit c.repo)

/-- The lines of the log on the first errors of a build, numbered. -/
def errorLines (n : Nat) : List Diagnosis → List LogLine
  | [] => []
  | d :: ds =>
    ⟨.info, "  " ++ decimal n ++ ". [" ++ d.category.name ++ "] " ++ cut 100 d.message⟩ ::
      errorLines (n + 1) ds

/-- Takes note of the errors of a failed build. -/
def analyze (s : RepairState) (errors : List Diagnosis) : RepairState :=
  ({ s with errors, attempts := settleLast errors.length s.attempts }.notes
      (⟨.warning, "Compilation failed with " ++ decimal errors.length ++ " parsable error(s)"⟩ ::
        errorLines 1 (errors.take 5))).emit
    (.errorsAnalyzed s.iteration errors.length (countByCategory errors)
      ((errors.take 3).map ErrorBrief.of))

/-- Compares the number of errors with that of the build before. Lack of progress is only
reported. -/
def compare (s : RepairState) : RepairState :=
  let count := s.errors.length
  let s' := { s with previous := some count }
  match s.previous with
  | none => s'
  | some before =>
    if count < before then
      { s' with stalled := 0 }.note .info
        ("Progress: " ++ decimal before ++ " -> " ++ decimal count ++ " errors")
    else if count = before then
      let stalled := s.stalled + 1
      let line : LogLine :=
        ⟨.warning, "No progress (" ++ decimal stalled ++ "/" ++
          decimal Settings.noProgressThreshold ++ ")"⟩
      let reached : LogLine :=
        ⟨.error, "No-progress threshold reached, continuing to the iteration limit"⟩
      { s' with stalled }.notes
        (line :: if Settings.noProgressThreshold ≤ stalled then [reached] else [])
    else
      s'.note .warning
        ("Error count increased: " ++ decimal before ++ " -> " ++ decimal count)

/-- The next remedy of the rotation for an error; none if even the last resort was tried. -/
def fromRotation (c : RepairContext) (s : RepairState) (d : Diagnosis) :
    Except Failure (Option Remedy) :=
  match s.rotation.select d (some (s.memory.history c.repo c.now)) with
  | .error e => .error e
  | .ok r => (s.rotation.hasTried d r).map fun tried => if tried then none else some r

/-- The remedy for an error: the best one known unless it was tried, else the next one of the
rotation. The flag tells whether it was known. -/
def choose (c : RepairContext) (s : RepairState) (d : Diagnosis) :
    Except Failure (Option (Remedy × Bool)) :=
  match s.memory.best c.repo d.pattern c.now with
  | none => (s.fromRotation c d).map (·.map (·, false))
  | some r =>
    match s.rotation.hasTried d r with
    | .error e => .error e
    | .ok true => (s.fromRotation c d).map (·.map (·, false))
    | .ok false => .ok (some (r, true))

/-- Takes note of a remedy that was applied for an error. -/
def finish (c : RepairContext) (s : RepairState) (d : Diagnosis) (r : Remedy) (a : Application) :
    RepairState :=
  let count := s.errors.length
  let error := a.obstacle.map (·.message)
  let attempts := s.attempts ++ [⟨r, s.iteration, count, count, c.now, a.success⟩]
  let applied := s.applied ++ [⟨s.iteration, d, a⟩]
  ({ s with attempts, applied }.note
      (if a.success then .info else .warning)
      (error.elim "Fix applied, rebuilding" fun e => "Fix failed: " ++ e)).emit
    (.fixEnded s.iteration a.success a.remedy error)

/-- Applies a remedy for an error. -/
def applyFor (c : RepairContext) (s : RepairState) (d : Diagnosis) (r : Remedy) :
    RepairState × StepEnd :=
  match r.describe with
  | .error e => (s, .failed e)
  | .ok description =>
    let s := (s.note .info ("Applying " ++ description ++ " for " ++ d.pattern)).emit
      (.fixChosen s.iteration r d.category description)
    match r.apply s.tree (.ofString c.repo), s.rotation.mark d r with
    | .ok (tree, a), .ok rotation => (finish c { s with tree, rotation } d r a, .next)
    | .ok (tree, _), .error e => ({ s with tree }, .failed e)
    | .error e, _ => (s, .failed e)

/-- Chooses and applies a remedy for the most urgent error. -/
def treat (c : RepairContext) (s : RepairState) (d : Diagnosis) : RepairState × StepEnd :=
  match s.choose c d with
  | .error e => (s, .failed e)
  | .ok none =>
    (s.note .warning
      ("Every strategy for " ++ d.pattern ++ " was already tried, rebuilding without a fix"), .next)
  | .ok (some (r, known)) =>
    let s := if known then s.note .info ("Reusing fix that worked before for " ++ d.pattern) else s
    s.applyFor c d r

/-- One iteration. -/
def step (c : RepairContext) (s : RepairState) : RepairState × StepEnd :=
  let s := { s.start c with calls := s.calls ++ [c.call] }
  match c.builder c.call (s.iteration - 1) with
  | .error e => (s, .failed e)
  | .ok build =>
    if build.success then
      ({ s with attempts := settleLast 0 s.attempts }, .succeeded build)
    else
      let s := s.analyze (Diagnosis.ofStreams build.out build.err)
      match s.errors with
      | [] =>
        (s.note .warning
          ("Compilation failed but no errors could be parsed: " ++ cut 500 build.err), .unparsable)
      | d :: _ => s.compare.treat c d

end RepairState
end BuildRepair
