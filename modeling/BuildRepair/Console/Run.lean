import BuildRepair.Blocking
import BuildRepair.Build.Process
import BuildRepair.Console.Arguments
import BuildRepair.Console.Output
import BuildRepair.Diagnosis.Document
import BuildRepair.Repair.Run

/-
  The commands of the program. Each one works on a tree and gives what it prints, its exit code and
  the tree it leaves. Whatever fails is reported in one line and ends with exit code 1.
-/

namespace BuildRepair.Console

/-- What a command finds around it. -/
structure Surroundings where
  tree : Tree
  input : String
  architecture : String
  network : Web
  now : Timestamp
  /-- What runs programs. -/
  runner : Build.Runner

/-- What a command leaves. -/
structure Finished where
  tree : Tree
  exitCode : Nat
  outputs : List Output
  /-- Program and arguments of each process that was to be started. -/
  processes : List (List String) := []

namespace Finished

/-- What is seen of a command and its exit code; the program stops at an output that cannot be
shown. -/
def seen (f : Finished) : List Seen × Nat :=
  let (lines, stopped) := seenAll f.outputs
  (lines, if stopped then 1 else f.exitCode)

end Finished

/-- The line on a failure. -/
def errorLine (message : String) : Output := .text ("Error: " ++ message)

/-- A command that ends with an error and changes nothing. -/
def refused (s : Surroundings) (message : String) : Finished := ⟨s.tree, 1, [errorLine message], []⟩

/-- A command that fails and changes nothing. -/
def failed (s : Surroundings) (e : Failure) : Finished := refused s e.message

/-! Reports -/

/-- A text, or a hyphen in place of an empty one. -/
def orDash (s : String) : String := if s = "" then "-" else s

/-- The first line of a message, cut to a width. -/
def headline (message : String) : String :=
  String.ofList (((Text.lines message.toList).headD []).take 80)

/-- The row of an error. -/
def errorRow (d : Diagnosis) : List String := [
  String.ofList (Text.intText d.priority), d.category.name, orDash (d.package.getD ""),
  d.suggested.elim "-" Remedy.inWords, headline d.message]

/-- The table of errors. -/
def errorTable (ds : List Diagnosis) : Output :=
  .table "Build errors" ["Priority", "Category", "Package", "Suggested fix", "Message"]
    (ds.map errorRow)

/-- The name of what replaces a blocking dependency. -/
def replacementName (b : Blocked) : Option String := b.replacement.map (·.newName)

/-- A blocking dependency as JSON. -/
def blockedJson (b : Blocked) : Json := .obj [
  ("name", .str b.name), ("version", .str b.version), ("reason", .str b.reason.name),
  ("replacement", Diagnosis.textOrNull (replacementName b))]

/-- The table of blocking dependencies. -/
def blockedTable (bs : List Blocked) : Output :=
  .table "Blocking dependencies" ["Package", "Version", "Reason", "Replacement"]
    (bs.map fun b => [b.name, b.version, b.reason.name, orDash ((replacementName b).getD "")])

/-- A duration, which is never measured. -/
def noDuration : Json := .real (Binary64.ofInt 0)

/-- The certificate of a build as JSON. -/
def certificateJson (p : BuildProof) : Json := .obj [
  ("timestamp", .str p.time.text), ("build_command", .str p.command),
  ("package_manager", .str p.manager), ("exit_code", .int p.exitCode), ("duration", noDuration),
  ("output_hash", .str p.digest), ("iterations_required", .int p.iterations)]

/-- An applied fix as JSON. -/
def appliedJson (f : AppliedFix) : Json := .obj [
  ("iteration", .int f.iteration), ("error_pattern", .str f.fault.pattern),
  ("strategy", f.result.remedy.stored), ("success", .bool f.result.success),
  ("error", Diagnosis.textOrNull (f.result.obstacle.map (·.message)))]

/-- The report of a repair run as JSON. -/
def reportJson (r : RepairReport) : Json := .obj [
  ("success", .bool r.success), ("outcome", .str r.outcome.name), ("iterations", .int r.iterations),
  ("duration", noDuration), ("compilation_proof", r.certificate.elim .null certificateJson),
  ("applied_fixes", .arr (r.applied.map appliedJson)),
  ("remaining_errors", .arr (r.remaining.map Diagnosis.toJson))]

/-- What is printed on an event. -/
def eventOutput : RepairEvent → Output
  | .iterationStarted i limit _ =>
    .text ("Iteration " ++ decimal i ++ "/" ++ signedDecimal limit)
  | .errorsAnalyzed _ count byCategory _ =>
    let counts := byCategory.map fun (c, n) => c.name ++ ": " ++ decimal n
    .text ("  " ++ decimal count ++ " error(s) (" ++ String.intercalate ", " counts ++ ")")
  | .fixChosen _ _ _ description => .text ("  Applying: " ++ description)
  | .fixEnded _ _ _ none => .text "  Fix applied"
  | .fixEnded _ _ _ (some error) => .text ("  Fix failed: " ++ error)
  | .completed _ _ _ _ _ summary => .text summary
  | .noBuildTarget _ reason => .text ("Skipped: " ++ reason)

/-! Commands -/

/-- Builds a repository by running programs in it; for a command line that cannot be split, none
is run. -/
def processBuilder (runner : Build.Runner) (repo : String) : Builder := fun call n =>
  match Build.command call.manager call.command with
  | .error e => .error e
  | .ok arguments =>
    match runner n ⟨arguments, repo, call.timeout⟩ with
    | .error e => .error e
    | .ok ending => .ok (.ofEnding call.timeout ending)

/-- The processes that calls are to start. -/
def processesOf (calls : List BuildCall) : List (List String) :=
  calls.filterMap fun call => (Build.command call.manager call.command).toOption

/-- The package managers that may be chosen. -/
def managers : List String := "auto" :: Build.packageManagers

/-- The report of a run, which may not hold a point in time if it is asked for as JSON. -/
def reportOf (format : String) (r : RepairRun) : Except Failure RepairReport :=
  match r.result with
  | .error e => .error e
  | .ok report =>
    if format = "json" && (reportJson report).holdsDate then .error .dateInDocument else .ok report

/-- What is printed of a run. -/
def runOutputs (format : String) (r : RepairRun) : List Output :=
  let told := if format = "json" then [] else r.events.map eventOutput
  match reportOf format r with
  | .error e => told ++ [errorLine e.message]
  | .ok report =>
    if format = "json" then [.document (reportJson report)]
    else if report.remaining.isEmpty then told
    else told ++ [errorTable report.remaining]

/-- How many iterations are complete and how many builds were asked for when an observer is told of
an event; none at the end of a run. -/
def progressAt : RepairEvent → Option (Nat × Nat)
  | .iterationStarted i _ _ => some (i - 1, i - 1)
  | .errorsAnalyzed i _ _ _ | .fixChosen i _ _ _ => some (i - 1, i)
  | .fixEnded i _ _ _ => some (i, i)
  | .completed .. | .noBuildTarget .. => none

/-- Where printing stops a run: at the first event that cannot be shown. -/
def printingStops (events : List RepairEvent) : Option (Nat × Nat) :=
  (events.find? fun e => (eventOutput e).seen.isNone).bind progressAt

/-- Repairs a repository until it builds. A run that printing stops has come as far as one that may
only do the iterations which are complete by then. -/
def validate (s : Surroundings) (repo : String) (o : RepairOptions) (format : String) : Finished :=
  match s.tree.isDirectory (.ofString repo) with
  | .error e => failed s (.file e)
  | .ok false => refused s ("Directory " ++ repo ++ " not found")
  | .ok true =>
    if !managers.contains o.manager then refused s ("Unsupported package manager: " ++ o.manager)
    else
      let run (o : RepairOptions) := repair repo o (processBuilder s.runner repo) s.now s.tree {}
      let r := run o
      match if format = "json" then none else printingStops r.events with
      | some (iterations, builds) =>
        ⟨(run { o with maxIterations := some iterations }).tree, 1, runOutputs format r,
          processesOf (r.calls.take builds)⟩
      | none =>
        let success := (reportOf format r).toOption.any (·.success)
        ⟨r.tree, if success then 0 else 1, runOutputs format r, processesOf r.calls⟩

/-- The registry in a chosen file, or the one that comes with the program. -/
def registryFor (s : Surroundings) (path : Option String) : Registry :=
  .loadFrom s.tree (path.bind Registry.file?) s.now

/-- The detector for a chosen architecture, or for that of the machine. -/
def detectorFor (s : Surroundings) (registry : Registry) (arch : Option String) : Detector :=
  { registry := some registry
    architecture := (arch.filter (· != "")).getD s.architecture
    network := s.network }

/-- The dependencies that a manifest file declares. -/
def dependenciesIn (s : Surroundings) (path : Path) : Except Failure (List (String × String)) :=
  match s.tree.readText path with
  | .error e => .error e
  | .ok text =>
    match Manifest.readDocument text with
    | .error e => .error e
    | .ok doc => .ok (Manifest.dependencies (Manifest.declarations doc))

/-- The manifest file that a path names: itself, or the one in a directory. -/
def manifestAt (s : Surroundings) (path : String) : Except FileError Path :=
  (s.tree.isDirectory (.ofString path)).map fun directory =>
    if directory then Manifest.pathIn (.ofString path) else .ofString path

/-- Runs a command on the dependencies of a manifest file, which has to be there. -/
def withDependencies (s : Surroundings) (path : Path)
    (next : List (String × String) → Finished) : Finished :=
  match s.tree.holds path with
  | .error e => failed s (.file e)
  | .ok false => refused s ("File " ++ path.text ++ " not found")
  | .ok true =>
    match dependenciesIn s path with
    | .error e => failed s e
    | .ok deps => next deps

/-- Finds the dependencies that keep a repository from being installed. -/
def scan (s : Surroundings) (path : String) (registry arch : Option String) (format : String) :
    Finished :=
  match manifestAt s path with
  | .error e => failed s (.file e)
  | .ok path =>
    withDependencies s path fun deps =>
      let blocked := ((detectorFor s (registryFor s registry) arch).detect deps).1
      let output :=
        if format = "json" then
          .document (.obj [("blocking", .arr (blocked.map blockedJson))])
        else if blocked.isEmpty then .text "No blocking dependencies found"
        else blockedTable blocked
      ⟨s.tree, if blocked.isEmpty then 0 else 2, [output], []⟩

/-- The name of a package, or a note in place of an empty one. -/
def nameOrRemoved (name : String) : String := if name = "" then "(removed)" else name

/-- What a dry run prints on a replacement. -/
def previewOutputs (declared : List (String × String)) (r : Replacement) : List Output :=
  let current := (Assoc.find? r.oldName declared).getD ""
  [.text ("-" ++ r.oldName ++ "@" ++ current),
    .text ("+" ++ nameOrRemoved r.newName ++ "@" ++ r.mapVersion current)]

/-- What is printed on a change. -/
def changeOutput (c : Replacement.Change) : Output :=
  .text (nameOrRemoved c.package ++ ": " ++ c.oldVersion.display ++ " -> " ++
    c.newVersion.display ++ if c.manual then " (manual review required)" else "")

/-- The replacements that apply to some dependencies: those of the blocking ones, or all that the
registry has. -/
def matching (registry : Registry) (d : Detector) (blocking : Bool)
    (declared : List (String × String)) : List Replacement :=
  if blocking then Blocked.replacements (d.detect declared).1
  else registry.replacements.filter fun r => Assoc.has r.oldName declared

/-- Applies replacements to a repository. For the blocking dependencies these are found anew, after
the requests that it took to find them before. -/
def execute (s : Surroundings) (d : Detector) (blocking : Bool) (declared : List (String × String))
    (rs : List Replacement) (repo : Path) : Except Failure (Tree × List Replacement.Change) :=
  if blocking then
    ((d.after (d.detect declared).2).replaceIn s.tree repo).map fun (t, report) =>
      (t, report.changes)
  else Replacement.execute rs s.tree repo

/-- Applies the replacements of a registry to a manifest, or only shows them. -/
def replace (s : Surroundings) (repo : String) (registry arch : Option String)
    (blocking dryRun : Bool) : Finished :=
  let path := Manifest.pathIn (.ofString repo)
  withDependencies s path fun declared =>
    let registry := registryFor s registry
    let d := detectorFor s registry arch
    let rs := matching registry d blocking declared
    if rs.isEmpty then ⟨s.tree, 0, [.text "No replacements apply"], []⟩
    else if dryRun then ⟨s.tree, 0, rs.flatMap (previewOutputs declared), []⟩
    else
      match execute s d blocking declared rs (.ofString repo) with
      | .error e => failed s e
      | .ok (t, changes) =>
        ⟨t, 0, changes.map changeOutput ++ [.text ("Updated " ++ path.text)], []⟩

/-- The log to analyze: standard input for a hyphen, else a file; none if there is no such file. -/
def logText (s : Surroundings) (log : String) : Except Failure (Option String) :=
  if log = "-" then .ok (some (String.ofList (Text.unifyLineEnds s.input.toList)))
  else
    match s.tree.holds (.ofString log) with
    | .error e => .error (.file e)
    | .ok false => .ok none
    | .ok true => (s.tree.readText (.ofString log)).map some

/-- Classifies the errors of a build log. -/
def analyze (s : Surroundings) (log format : String) : Finished :=
  match logText s log with
  | .error e => failed s e
  | .ok none => refused s ("File " ++ log ++ " not found")
  | .ok (some text) =>
    let ds := Diagnosis.ofLog text.toList
    let output :=
      if format = "json" then .document (.obj [("errors", .arr (ds.map Diagnosis.toJson))])
      else if ds.isEmpty then .text "No errors found"
      else errorTable ds
    ⟨s.tree, 0, [output], []⟩

/-- Runs a command. -/
def Command.run (s : Surroundings) : Command → Finished
  | .validate repo options format => Console.validate s repo options format
  | .scan path registry arch format => Console.scan s path registry arch format
  | .replace repo registry arch blocking dryRun =>
    Console.replace s repo registry arch blocking dryRun
  | .analyze log format => Console.analyze s log format

/-- The names in a repository that a repair run may look at. -/
def repositoryFiles : List String :=
  [Manifest.fileName, ".npmrc", "node_modules",
    Settings.default.historyDirectory ++ "/" ++ Settings.historyFile] ++ Remedy.lockfiles

/-- The registry file that is asked for. -/
def registryPaths (path : Option String) : List Path := path.toList.map .ofString

/-- The paths that a command may look at. -/
def Command.paths : Command → List Path
  | .validate repo _ _ => .ofString repo :: repositoryFiles.map (Path.ofString repo).child
  | .scan path registry _ _ =>
    .ofString path :: Manifest.pathIn (.ofString path) :: registryPaths registry
  | .replace repo registry _ _ _ => Manifest.pathIn (.ofString repo) :: registryPaths registry
  | .analyze log _ => [.ofString log]

/-- The exit code of a command line that is not one of the program's. -/
def usageError : Nat := 2

end BuildRepair.Console
