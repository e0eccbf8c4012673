import BuildRepair.Assoc
import BuildRepair.Repair.Basic
import BuildRepair.Text.Numeral

/-
  The command line: which command is asked for, with which options. Each command takes one argument
  and its own options, in any order; of an option given twice the last value counts.
-/

namespace BuildRepair.Console

/-- A command with its arguments. -/
inductive Command where
  | validate (repo : String) (options : RepairOptions) (format : String)
  | scan (path : String) (registry arch : Option String) (format : String)
  | replace (repo : String) (registry arch : Option String) (blocking dryRun : Bool)
  | analyze (log format : String)

/-- The arguments and options of a command line. An option without a value has an empty one. -/
structure Given where
  arguments : List String := []
  options : List (String × String) := []

namespace Given

/-- The last value of an option. -/
def value? (g : Given) (name : String) : Option String := Assoc.find? name g.options.reverse

/-- Whether an option is given. -/
def has (g : Given) (name : String) : Bool := (g.value? name).isSome

end Given

/-- An option: its name, and whether it takes a value. -/
abbrev OptionTable := List (String × Bool)

/-- Whether an argument is an option and no value. -/
def isOption (s : String) : Bool := s.toList.head? == some '-' && s != "-"

/-- The name and the value of an argument such as `--name=value`. -/
def splitOption (s : String) : String × Option String :=
  let name := s.toList.takeWhile (· != '=')
  match s.toList.dropWhile (· != '=') with
  | _ :: value => (String.ofList name, some (String.ofList value))
  | [] => (s, none)

/-- Arguments with one more option in front. -/
def Given.withOption (name value : String) (g : Given) : Given :=
  { g with options := (name, value) :: g.options }

/-- Reads the arguments of a command; two hyphens end the options. -/
def readGiven (table : OptionTable) : List String → Option Given
  | [] => some {}
  | s :: rest =>
    if s = "--" then some { arguments := rest }
    else if isOption s then
      let (name, value) := splitOption s
      match Assoc.find? name table, value with
      | some false, none => (readGiven table rest).map (Given.withOption name "")
      | some true, some value => (readGiven table rest).map (Given.withOption name value)
      | some true, none =>
        match rest with
        | value :: rest => (readGiven table rest).map (Given.withOption name value)
        | [] => none
      | _, _ => none
    else (readGiven table rest).map fun g => { g with arguments := s :: g.arguments }

/-- The one argument and the options of a command. -/
def readCommand (table : OptionTable) (args : List String) : Option (String × Given) :=
  match readGiven table args with
  | some g =>
    match g.arguments with
    | [argument] => some (argument, g)
    | _ => none
  | none => none

/-- A value that has to be read; none if it is given and cannot be. -/
def readOption (read : List Char → Option α) (value : Option String) : Option (Option α) :=
  match value with
  | none => some none
  | some s => (read s.toList).map some

/-- The format that is asked for. -/
def Given.format (g : Given) : String := (g.value? "--format").getD "text"

/-- Reads the command after the options of the program. -/
def readNamed (name : String) (args : List String) : Option Command :=
  match name with
  | "validate" => do
    let (repo, g) ← readCommand
      [("--max-iterations", true), ("--timeout", true), ("--package-manager", true),
        ("--build-command", true), ("--format", true)] args
    let maxIterations ← readOption Text.readInteger? (g.value? "--max-iterations")
    let timeout ← readOption Text.readDouble? (g.value? "--timeout")
    let options : RepairOptions :=
      { maxIterations, timeout := timeout.map .real
        manager := (g.value? "--package-manager").getD "auto"
        command := g.value? "--build-command" }
    return .validate repo options g.format
  | "scan" => do
    let (path, g) ← readCommand
      [("--registry", true), ("--arch", true), ("--format", true)] args
    return .scan path (g.value? "--registry") (g.value? "--arch") g.format
  | "replace" => do
    let (repo, g) ← readCommand
      [("--registry", true), ("--blocking", false), ("--arch", true), ("--dry-run", false)] args
    return .replace repo (g.value? "--registry") (g.value? "--arch") (g.has "--blocking")
      (g.has "--dry-run")
  | "analyze" => do
    let (log, g) ← readCommand [("--format", true)] args
    return .analyze log g.format
  | _ => none

/-- Whether an argument only asks for a more detailed log. -/
def isVerbose (s : String) : Bool :=
  s == "--verbose" ||
    match s.toList with
    | '-' :: flags => !flags.isEmpty && flags.all (· == 'v')
    | _ => false

/-- Reads a command line; none if it is not one of the program's. -/
def Command.ofArgs? : List String → Option Command
  | [] => none
  | s :: rest =>
    if isVerbose s then ofArgs? rest
    else if s = "--" then
      match rest with
      | name :: args => readNamed name args
      | [] => none
    else readNamed s rest

end BuildRepair.Console
