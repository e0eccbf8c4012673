import BuildRepair.File.Path
import BuildRepair.Text.Numeral
import BuildRepair.Decimal.Shortest

/-
  Settings and where they come from: environment variables, each with a default. A setting that
  should be a number and is none makes all of them invalid.
-/

namespace BuildRepair

/-- A number of seconds: a whole number keeps its form in messages. -/
inductive Seconds where
  | whole (n : Int)
  | real (x : Binary64)
deriving DecidableEq, Repr

/-- A number of seconds in writing. -/
def Seconds.text : Seconds → String
  | .whole n => String.ofList (Text.intText n)
  | .real x => x.textWith "inf" "nan"

/-- A number of seconds as a double, unless it is a whole number beyond every double. -/
def Seconds.toDouble? : Seconds → Option Binary64
  | .whole n =>
    match Binary64.ofInt n with
    | .infinite _ => none
    | x => some x
  | .real x => some x

/-- The defaults of the program. -/
structure Settings where
  maxIterations : Int
  buildTimeout : Seconds
  urlTimeout : Seconds
  historyDirectory : String
  /-- The registry file; none is the one that comes with the program. -/
  registryPath : Option Path
  logLevel : String
deriving Repr

namespace Settings

/-- How many iterations without progress are reported. -/
def noProgressThreshold : Nat := 3

/-- The name of history files. -/
def historyFile : String := "fix-history.json"

/-- The settings without any variable. -/
def default : Settings :=
  { maxIterations := 10
    buildTimeout := .real (Binary64.ofInt 300)
    urlTimeout := .real (Binary64.ofInt 5)
    historyDirectory := ".revive"
    registryPath := none
    logLevel := "WARNING" }

/-- A variable as seconds, or its default. -/
def seconds? (value : Option String) (default : Seconds) : Option Seconds :=
  match value with
  | none => some default
  | some s => (Text.readDouble? s.toList).map .real

/-- The settings under some environment variables. -/
def ofVariables? (lookup : String → Option String) : Option Settings := do
  let maxIterations ←
    match lookup "REVIVE_MAX_ITERATIONS" with
    | none => some default.maxIterations
    | some s => Text.readInteger? s.toList
  let buildTimeout ← seconds? (lookup "REVIVE_BUILD_TIMEOUT") default.buildTimeout
  let urlTimeout ← seconds? (lookup "REVIVE_URL_TIMEOUT") default.urlTimeout
  return {
    maxIterations, buildTimeout, urlTimeout
    historyDirectory := (lookup "REVIVE_HISTORY_DIR").getD default.historyDirectory
    registryPath := (lookup "REVIVE_REGISTRY_PATH").map Path.ofString
    logLevel := (lookup "REVIVE_LOG_LEVEL").getD default.logLevel }

end Settings
end BuildRepair
