import BuildRepair.Manifest

/-
  What a repository builds with: its package manager by the lockfile it has, its build script by
  name, and the architecture of a machine by the name that packages use for it.
-/

namespace BuildRepair.Build

/-- Lockfiles and the package managers they belong to; the first one there decides. -/
def lockfiles : List (String × String) :=
  [("pnpm-lock.yaml", "pnpm"), ("yarn.lock", "yarn"), ("package-lock.json", "npm")]

/-- The package manager of a repository. -/
def packageManager (t : Tree) (repo : Path) : Except FileError String :=
  (Tree.firstThere (fun p => t.holds (repo.child p.1)) lockfiles).map (·.elim "npm" (·.2))

/-- Names of scripts that build, the most telling first. -/
def buildScripts : List String :=
  ["build", "compile", "tsc", "build:prod", "build:production", "dist", "test"]

/-- The script that builds: the first one with a command. -/
def script? (doc : Fields) : Option String :=
  let scripts := Manifest.scripts doc
  buildScripts.find? fun name => (Assoc.find? name scripts).any Json.truthy

/-- Names that machines give their architecture, with the names that packages use. -/
def architectures : List (String × String) := [
  ("x86_64", "x64"), ("amd64", "x64"), ("x64", "x64"), ("aarch64", "arm64"), ("arm64", "arm64"),
  ("armv7l", "arm"), ("armv6l", "arm"), ("i386", "ia32"), ("i686", "ia32"), ("x86", "ia32")]

/-- The architecture of a machine. -/
def architecture (machine : String) : String :=
  let name := String.ofList (Text.lowerText machine.toList)
  (Assoc.find? name architectures).getD name

end BuildRepair.Build
