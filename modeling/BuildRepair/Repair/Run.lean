import BuildRepair.Build.Target
import BuildRepair.Repair.Iteration

/-
  A whole repair run: iterations until a build succeeds, a build fails without errors to work on,
  or the limit is reached. A success is learnt: every remedy that was applied with success goes into
  the history of the repository, which is then saved.
-/

namespace BuildRepair

/-- What a run reports. -/
structure RepairReport where
  outcome : RepairOutcome
  iterations : Nat
  certificate : Option BuildProof := none
  applied : List AppliedFix := []
  /-- The errors of the last build, if it failed. -/
  remaining : List Diagnosis := []

/-- Whether a run leaves nothing to repair. -/
def RepairReport.success (r : RepairReport) : Bool := r.outcome.isSuccess

/-- A whole run: what it changed, what could be observed on the way, and its report. The changes
stay also when the run fails. -/
structure RepairRun where
  tree : Tree
  memory : Memory
  phase : RepairPhase := .idle
  attempts : List FixAttempt := []
  events : List RepairEvent := []
  log : List LogLine := []
  calls : List BuildCall := []
  result : Except Failure RepairReport

namespace RepairState

/-- Iterates, at most `n` more times; a run that spends them all ends with `next`. -/
def iterate (c : RepairContext) : Nat → RepairState → RepairState × StepEnd
  | 0, s => (s, .next)
  | n + 1, s =>
    match s.step c with
    | (s, .next) => iterate c n s
    | ended => ended

/-- How many fixes were applied with success. -/
def successful (s : RepairState) : Nat := (s.applied.filter (·.result.success)).length

/-- Records the fixes of a run that were applied with success, in order. -/
def recordAll (c : RepairContext) (applied : List AppliedFix) (m : Memory) : Memory :=
  applied.foldl
    (fun m f =>
      if f.result.success then m.record c.repo f.fault.pattern f.result.remedy c.now else m)
    m

/-- Learns from a run that succeeded and saves the history. That the system refuses to save it is
only reported. -/
def learn (c : RepairContext) (s : RepairState) : RepairState × Except Failure Unit :=
  let (tree, memory, saved) := (recordAll c s.applied s.memory).save s.tree c.repo none c.now
  let s := { s with tree, memory }
  match saved with
  | .error (.file (.system cause path)) =>
    (s.note .warning ("Could not save fix history for " ++ c.repo ++ ": " ++
      (FileError.system cause path).message), .ok ())
  | .error e => (s, .error e)
  | .ok () => (s, .ok ())

/-- The last words of a run. -/
def summary (s : RepairState) (outcome : RepairOutcome) : String :=
  if outcome.isSuccess then
    "Compilation succeeded after " ++ decimal s.iteration ++ " iteration(s) with " ++
      decimal s.successful ++ " fix(es)"
  else
    "Validation failed (" ++ outcome.name ++ ") after " ++ decimal s.iteration ++
      " iteration(s); " ++ decimal s.errors.length ++ " error(s) remain"

/-- The line of the log on the end of a run. -/
def lastLine (s : RepairState) (outcome : RepairOutcome) : String :=
  if outcome.isSuccess then
    "Compilation succeeded after " ++ decimal s.iteration ++ " iteration(s) and " ++
      decimal s.applied.length ++ " fix(es)"
  else s.summary outcome

/-- A run that stops in the middle. -/
def aborted (s : RepairState) (e : Failure) : RepairRun :=
  { tree := s.tree, memory := s.memory, phase := .iterating, attempts := s.attempts
    events := s.events, log := s.log, calls := s.calls, result := .error e }

/-- A run that ends with an outcome; one that succeeded leaves no errors. -/
def ended (s : RepairState) (outcome : RepairOutcome) (certificate : Option BuildProof) :
    RepairRun :=
  let remaining := if outcome.isSuccess then [] else s.errors
  let last := RepairEvent.completed outcome.isSuccess s.iteration s.applied.length s.successful
    remaining.length (s.summary outcome)
  { tree := s.tree, memory := s.memory, phase := .finished outcome, attempts := s.attempts
    events := s.events ++ [last]
    log := s.log ++ [⟨.info, s.lastLine outcome⟩]
    calls := s.calls
    result := .ok ⟨outcome, s.iteration, certificate, s.applied, remaining⟩ }

/-- Ends a run after a build that succeeded. -/
def succeed (c : RepairContext) (s : RepairState) (build : BuildResult) : RepairRun :=
  match BuildProof.of c.now build c.call.manager c.call.command s.iteration with
  | .error e => s.aborted e
  | .ok certificate =>
    match s.learn c with
    | (s, .error e) => s.aborted e
    | (s, .ok ()) => s.ended .succeeded (some certificate)

/-- Runs all iterations and reports. -/
def run (c : RepairContext) (s : RepairState) : RepairRun :=
  match s.iterate c c.limit.toNat with
  | (s, .next) => s.ended .outOfIterations none
  | (s, .unparsable) => s.ended .unparsable none
  | (s, .succeeded build) => s.succeed c build
  | (s, .failed e) => s.aborted e

end RepairState

/-- The package manager of a run. -/
def RepairOptions.managerFor (o : RepairOptions) (t : Tree) (repo : Path) :
    Except FileError String :=
  if o.manager = "" ∨ o.manager = "auto" then Build.packageManager t repo else .ok o.manager

/-- The build command of a run, if there is one; a manifest that cannot be read has none. -/
def RepairOptions.commandFor (o : RepairOptions) (t : Tree) (repo : Path) : Option String :=
  match o.command.filter (· != "") with
  | some command => some command
  | none =>
    match Manifest.load t repo with
    | .ok doc => Build.script? doc
    | .error _ => none

/-- A run over a repository that has nothing to build. -/
def RepairRun.skipped (repo : String) (t : Tree) (m : Memory) : RepairRun :=
  { tree := t, memory := m, phase := .finished .noBuildTarget
    events := [.noBuildTarget repo "No build script detected in package.json"]
    log := [⟨.info, "No build script found in " ++ repo ++ ", skipping compilation validation"⟩]
    result := .ok { outcome := .noBuildTarget, iterations := 0 } }

/-- Repairs a repository. -/
def repair (repo : String) (o : RepairOptions) (builder : Builder) (now : Timestamp) (t : Tree)
    (m : Memory) : RepairRun :=
  match m.load t repo with
  | (m, .error e) => { tree := t, memory := m, result := .error e }
  | (m, .ok _) =>
    let m := m.opened repo now
    match o.managerFor t (.ofString repo) with
    | .error e => { tree := t, memory := m, result := .error (.file e) }
    | .ok manager =>
      match o.commandFor t (.ofString repo) with
      | none => .skipped repo t m
      | some command =>
        let limit := o.maxIterations.getD Settings.default.maxIterations
        let timeout := o.timeout.getD Settings.default.buildTimeout
        RepairState.run ⟨repo, limit, ⟨manager, command, timeout⟩, builder, now⟩
          { tree := t, memory := m }

end BuildRepair
