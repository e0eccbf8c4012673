/-
  Categories of build errors, with the priority that decides which error is treated first.
-/

namespace BuildRepair

/-- What kind of fault a build error reports. -/
inductive Category where
  | lockfileConflict
  | peerConflict
  | versionConflict
  | nativeModule
  | gitDependency
  | notFound
  | syntaxFault
  | typeFault
  | unknown
deriving DecidableEq, Repr, Inhabited

namespace Category

/-- Every category. -/
def all : List Category :=
  [.lockfileConflict, .peerConflict, .versionConflict, .nativeModule, .gitDependency, .notFound,
    .syntaxFault, .typeFault, .unknown]

/-- The name of a category in reports. -/
def name : Category → String
  | .lockfileConflict => "lockfile_conflict"
  | .peerConflict => "peer_dependency_conflict"
  | .versionConflict => "dependency_version_conflict"
  | .nativeModule => "native_module_failure"
  | .gitDependency => "git_dependency_failure"
  | .notFound => "dependency_not_found"
  | .syntaxFault => "syntax_error"
  | .typeFault => "type_error"
  | .unknown => "unknown"

/-- The category of a name. -/
def ofName? (s : String) : Option Category := all.find? (·.name == s)

/-- How urgent errors of a category are. -/
def priority : Category → Int
  | .lockfileConflict => 100
  | .peerConflict => 90
  | .versionConflict => 85
  | .nativeModule => 80
  | .gitDependency => 75
  | .notFound => 70
  | .syntaxFault => 40
  | .typeFault => 20
  | .unknown => 10

theorem ofName?_name (c : Category) : ofName? c.name = some c := by
  cases c <;> decide

end Category
end BuildRepair
