import BuildRepair.Replacement.Basic
import BuildRepair.Glob
import BuildRepair.Time.Timestamp

/-
  The replacement registry: what is known about obsolete packages, packages that lack some
  architecture and addresses that are gone. It is kept in a JSON file with a fixed schema; a file
  that does not follow the schema counts as none, and then the built-in entries are used.
-/

namespace BuildRepair

/-- A package that does not work on some architectures. -/
structure ArchitectureLimit where
  package : String
  architectures : List String
  replacement : Option String := none
  reason : String := ""
deriving DecidableEq, Repr

/-- A glob for addresses that are gone. -/
structure DeadPattern where
  pattern : String
  replacementPackage : Option String := none
  replacementVersion : Option String := none
  reason : String := ""
deriving DecidableEq, Repr

/-- A replacement registry. -/
structure Registry where
  version : String := "1.0.0"
  lastUpdated : String := ""
  replacements : List Replacement := []
  limits : List ArchitectureLimit := []
  deadUrls : List String := []
  /-- The globs; none if the registry has no section for them. -/
  deadPatterns : Option (List DeadPattern) := none
deriving DecidableEq, Repr, Inhabited

namespace Registry

/-- The entries used where there is no registry file. -/
def builtIn (now : Timestamp) : Registry :=
  { version := "1.0.0"
    lastUpdated := now.utcText
    replacements := [
      { oldName := "node-sass", newName := "sass", versions := [("*", "^1.69.0")] },
      { oldName := "request", newName := "node-fetch", versions := [("*", "^3.3.0")]
        manual := true, note := some "Replace request() calls with fetch() API" }]
    limits := [
      { package := "node-sass", architectures := ["arm64"], replacement := some "sass"
        reason := "node-sass uses native bindings that don't support ARM64" },
      { package := "phantomjs", architectures := ["arm64"], replacement := some "puppeteer"
        reason := "PhantomJS is deprecated and has no ARM64 binaries" }]
    deadUrls := ["github.com/substack/querystring"]
    deadPatterns := none }

/-- The registry that comes with the program. -/
def bundled : Registry :=
  { version := "1.1.0"
    lastUpdated := "2025-01-15T00:00:00+00:00"
    replacements := [
      { oldName := "node-sass", newName := "sass", versions := [("*", "^1.69.0")] },
      { oldName := "request", newName := "node-fetch", versions := [("*", "^3.3.0")]
        manual := true, note := some "Replace request() calls with fetch() API" },
      { oldName := "phantomjs", newName := "puppeteer", versions := [("*", "^21.0.0")]
        manual := true, note := some "Rewrite PhantomJS scripts against the Puppeteer API" },
      { oldName := "phantomjs-prebuilt", newName := "puppeteer", versions := [("*", "^21.0.0")]
        manual := true, note := some "Rewrite PhantomJS scripts against the Puppeteer API" },
      { oldName := "babel-eslint", newName := "@babel/eslint-parser"
        versions := [("*", "^7.23.0")], manual := true
        note := some "Set parser to @babel/eslint-parser in the ESLint config" },
      { oldName := "bcrypt", newName := "bcryptjs", versions := [("*", "^2.4.3")] },
      { oldName := "fibers", newName := "", versions := [], manual := true
        note := some "fibers does not build on Node 16+; remove it and use async/await" }]
    limits := [
      { package := "node-sass", architectures := ["arm64"], replacement := some "sass"
        reason := "node-sass uses native bindings that don't support ARM64" },
      { package := "phantomjs", architectures := ["arm64"], replacement := some "puppeteer"
        reason := "PhantomJS is deprecated and has no ARM64 binaries" },
      { package := "grpc", architectures := ["arm64"], replacement := some "@grpc/grpc-js"
        reason := "The native grpc package ships no ARM64 binaries" }]
    deadUrls := ["github.com/substack/querystring"]
    deadPatterns := some [
      { pattern := "github.com/substack/**"
        reason := "Repositories under this account were archived or deleted" }] }

/-! The schema of a registry file -/

/-- A field under its name, or else under its second name. -/
def named (name second : String) (fields : Fields) : Option Json :=
  (Assoc.find? name fields) <|> Assoc.find? second fields

/-- A field that must hold a string. -/
def stringIn : Option Json → Option String
  | some (.str s) => some s
  | _ => none

/-- A field that holds a string where it is present. -/
def stringOr (default : String) : Option Json → Option String
  | none => some default
  | j => stringIn j

/-- A field that holds a string or null where it is present. -/
def stringOrNull : Option Json → Option (Option String)
  | none | some .null => some none
  | j => (stringIn j).map some

/-- A string that is not empty; its length is only known if it holds no half of a character. -/
def filled (s : String) : Option String := if s = "" || Text.holdsHalf s then none else some s

/-- The items of an array, each read in one way. -/
def listOf (read : Json → Option α) : Option Json → Option (List α)
  | some (.arr items) => items.mapM read
  | _ => none

/-- The fields of an object with strings as values. -/
def stringFields : Option Json → Option (List (String × String))
  | some (.obj fields) => fields.mapM fun (k, j) => (stringIn (some j)).map fun v => (k, v)
  | _ => none

/-- A replacement of a registry file. -/
def readReplacement (j : Json) : Option Replacement := do
  let fields ← j.fields?
  let oldName ← (stringIn (named "oldName" "old_name" fields)).bind filled
  let newName ← stringOr "" (named "newName" "new_name" fields)
  let versions ← stringFields (named "versionMapping" "version_mapping" fields)
  let manual ←
    match named "requiresCodeChanges" "requires_code_changes" fields with
    | some (.bool b) => some b
    | _ => none
  let note ← stringOrNull (named "codeChangeDescription" "code_change_description" fields)
  return { oldName, newName, versions, manual, note }

/-- An architecture limit of a registry file. -/
def readLimit (j : Json) : Option ArchitectureLimit := do
  let fields ← j.fields?
  let package ← stringIn (named "packageName" "package_name" fields)
  let architectures ← listOf (fun j => stringIn (some j))
    (named "incompatibleArchitectures" "incompatible_architectures" fields)
  let replacement ← stringOrNull (Assoc.find? "replacement" fields)
  let reason ← stringOr "" (Assoc.find? "reason" fields)
  return { package, architectures, replacement, reason }

/-- A glob of a registry file. -/
def readPattern (j : Json) : Option DeadPattern := do
  let fields ← j.fields?
  let pattern ← stringIn (Assoc.find? "pattern" fields)
  let replacementPackage ← stringOrNull (named "replacementPackage" "replacement_package" fields)
  let replacementVersion ← stringOrNull (named "replacementVersion" "replacement_version" fields)
  let reason ← stringOr "" (Assoc.find? "reason" fields)
  return { pattern, replacementPackage, replacementVersion, reason }

/-- The registry that a document holds, if it follows the schema. -/
def ofJson? (j : Json) : Option Registry := do
  let fields ← j.fields?
  let version ← (stringIn (Assoc.find? "version" fields)).bind filled
  let lastUpdated ← stringOr "" (named "lastUpdated" "last_updated" fields)
  let replacements ← listOf readReplacement (Assoc.find? "replacements" fields)
  let limits ← listOf readLimit
    (named "architectureIncompatible" "architecture_incompatible" fields)
  let deadUrls ← listOf (fun j => stringIn (some j))
    (named "knownDeadUrls" "known_dead_urls" fields)
  let deadPatterns ←
    match named "deadUrlPatterns" "dead_url_patterns" fields with
    | none | some .null => some none
    | patterns => (listOf readPattern patterns).map some
  return { version, lastUpdated, replacements, limits, deadUrls, deadPatterns }

/-- The registry in the text of a file, or the built-in entries. -/
def ofText (text : String) (now : Timestamp) : Registry :=
  match Json.read text with
  | .ok j => (ofJson? j).getD (builtIn now)
  | .error _ => builtIn now

/-- The registry in a file, or the built-in entries if there is none that can be read. -/
def load (t : Tree) (path : Path) (now : Timestamp) : Registry :=
  match t.readText path with
  | .ok text => ofText text now
  | .error _ => builtIn now

/-- The file that a text names as that of a registry; none if it is empty. -/
def file? (name : String) : Option Path := if name = "" then none else some (.ofString name)

/-- The registry in a file, or the one that comes with the program where no file is named. -/
def loadFrom (t : Tree) (file : Option Path) (now : Timestamp) : Registry :=
  file.elim bundled fun path => load t path now

/-- A text or null. -/
def orNull (s : Option String) : Json := s.elim .null .str

/-- A replacement as a registry file holds it; an empty note is left out. -/
def replacementJson (r : Replacement) : Json :=
  .obj ([
    ("oldName", .str r.oldName), ("newName", .str r.newName),
    ("versionMapping", .obj (r.versions.map fun (k, v) => (k, .str v))),
    ("requiresCodeChanges", .bool r.manual)] ++
    match r.note.filter (· != "") with
    | some note => [("codeChangeDescription", .str note)]
    | none => [])

/-- An architecture limit as a registry file holds it. -/
def limitJson (l : ArchitectureLimit) : Json :=
  .obj [
    ("packageName", .str l.package),
    ("incompatibleArchitectures", .arr (l.architectures.map .str)),
    ("replacement", orNull l.replacement), ("reason", .str l.reason)]

/-- A glob as a registry file holds it. -/
def patternJson (p : DeadPattern) : Json :=
  .obj [
    ("pattern", .str p.pattern), ("replacementPackage", orNull p.replacementPackage),
    ("replacementVersion", orNull p.replacementVersion), ("reason", .str p.reason)]

/-- The document of a registry. -/
def toJson (r : Registry) : Json :=
  .obj ([
    ("version", .str r.version), ("lastUpdated", .str r.lastUpdated),
    ("replacements", .arr (r.replacements.map replacementJson)),
    ("architectureIncompatible", .arr (r.limits.map limitJson)),
    ("knownDeadUrls", .arr (r.deadUrls.map .str))] ++
    match r.deadPatterns with
    | some ps => [("deadUrlPatterns", .arr (ps.map patternJson))]
    | none => [])

/-- The registry as of a point in time. -/
def stamped (r : Registry) (now : Timestamp) : Registry := { r with lastUpdated := now.utcText }

/-- The failure of a registry that could not be written: what the system refuses is reported as
such, a path that is none as itself. -/
def unsaved : FileError → Failure
  | .system cause path => .registryUnsaved (.system cause path)
  | e => .file e

/-- Writes a registry to a file, in directories made where they are missing. Directories made
before a failure stay. -/
def save (r : Registry) (t : Tree) (path : Path) : Tree × Except Failure Unit :=
  match t.makeDirectories path.parent with
  | (t, .error e) => (t, .error (unsaved e))
  | (t, .ok ()) =>
    match t.replaceText path r.toJson.document with
    | (t, .error e) => (t, .error (unsaved e))
    | (t, .ok ()) => (t, .ok ())

/-! Look-ups -/

/-- The first replacement of a package. -/
def lookup (r : Registry) (package : String) : Option Replacement :=
  r.replacements.find? (·.oldName == package)

/-- The registry with a replacement added in place of those for the same package. -/
def add (r : Registry) (new : Replacement) : Registry :=
  { r with replacements := r.replacements.filter (·.oldName != new.oldName) ++ [new] }

/-- The first architecture limit of a package. -/
def limitOf (r : Registry) (package : String) : Option ArchitectureLimit :=
  r.limits.find? (·.package == package)

/-- Whether an address holds one that is known to be gone. -/
def isDeadUrl (r : Registry) (url : String) : Bool :=
  r.deadUrls.any fun dead => Text.holds dead url.toList

/-- The first glob that matches in an address. -/
def deadPattern (r : Registry) (url : String) : Option DeadPattern :=
  (r.deadPatterns.getD []).find? fun p => Glob.occurs p.pattern url

end Registry
end BuildRepair
