import BuildRepair.Diagnosis.Basic
import BuildRepair.Semver

/-
  Which remedies a diagnosis calls for. Each category has its templates in the order in which they
  are tried, and `customize` fills the fields of a template from the diagnosis.
-/

namespace BuildRepair

/-- Alternatives to packages that need a native toolchain; an empty one means there is none. -/
def nativeAlternatives : List (String × String) := [
  ("bcrypt", "bcryptjs"),
  ("node-sass", "sass"),
  ("sqlite3", "better-sqlite3"),
  ("canvas", "@napi-rs/canvas"),
  ("fibers", ""),
  ("deasync", ""),
  ("fsevents", "")]

namespace Remedy

/-- The lockfile removed by default. -/
def defaultLockfile : Remedy := .removeLockfile (.str "package-lock.json")

/-- Sets a package, filled in later, to its latest version. -/
def toLatest : Remedy := .adjustVersion (.str "") (.str "latest")

/-- Pins a package, filled in later, to any version. -/
def pinAny : Remedy := .addResolution (.str "") (.str "*")

/-- The templates of a category in the order in which they are tried. -/
def templates : Category → List Remedy
  | .lockfileConflict => [defaultLockfile, .legacyPeerDeps]
  | .peerConflict => [.legacyPeerDeps, pinAny, toLatest, defaultLockfile]
  | .versionConflict => [.legacyPeerDeps, toLatest, pinAny, defaultLockfile]
  | .nativeModule =>
    [.substitutePackage (.str "") (.str ""), toLatest, .removePackage (.str "")]
  | .gitDependency => [.removePackage (.str ""), defaultLockfile]
  | .notFound => [defaultLockfile, toLatest, .legacyPeerDeps]
  | .syntaxFault => [toLatest, defaultLockfile]
  | .typeFault => [toLatest, .legacyPeerDeps]
  | .unknown => [.legacyPeerDeps, defaultLockfile]

/-- What is tried when every remedy of a category has been. -/
def lastResort : Remedy := .forceInstall

end Remedy

namespace Diagnosis

/-- The version to set: the constraint if it is one concrete version, else the latest. -/
def targetVersion (d : Diagnosis) : String :=
  match d.constraint with
  | some c => if Semver.isVersion c.toList then c else "latest"
  | none => "latest"

/-- The constraint to pin: the one of the diagnosis, else the one of a template, else any. -/
def pinnedVersion (d : Diagnosis) (fallback : Json) : Json :=
  match d.constraint.filter (· != "") with
  | some c => .str c
  | none => if fallback.truthy then fallback else .str "*"

/-- A template with the package of the diagnosis; none if it needs a package and there is none. -/
def customize (template : Remedy) (d : Diagnosis) : Option Remedy :=
  match template with
  | .adjustVersion .. =>
    d.namedPackage.map fun p => .adjustVersion (.str p) (.str d.targetVersion)
  | .removePackage _ => d.namedPackage.map fun p => .removePackage (.str p)
  | .substitutePackage .. =>
    d.namedPackage.map fun p =>
      .substitutePackage (.str p) (.str ((Assoc.find? p nativeAlternatives).getD ""))
  | .addResolution _ version =>
    d.namedPackage.map fun p => .addResolution (.str p) (d.pinnedVersion version)
  | template => some template

/-- The remedies for a diagnosis in the order in which they are tried, each once. -/
def remedies (d : Diagnosis) : List Remedy :=
  (Remedy.templates d.category).foldl
    (fun chosen template =>
      match customize template d with
      | some r => if chosen.contains r then chosen else chosen ++ [r]
      | none => chosen)
    []

end Diagnosis
end BuildRepair
