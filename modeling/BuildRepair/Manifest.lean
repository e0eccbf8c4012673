import BuildRepair.File.Replacing
import BuildRepair.Json.Printer
import BuildRepair.Text.Scan

/-
  Manifests: the `package.json` documents of repositories. A manifest declares dependencies in
  four groups. `parse` reads the declarations, `load` and `save` move the whole document between
  a repository and its fields.
-/

namespace BuildRepair

/-- Where a dependency comes from. -/
inductive Source where
  | registry
  | git
  | url
  | path
deriving DecidableEq, Repr

/-- The name of a source in reports. -/
def Source.name : Source → String
  | .registry => "registry"
  | .git => "git"
  | .url => "url"
  | .path => "path"

/-- Whether a text starts with one of some literals. -/
def startsWithAny (literals : List String) (s : String) : Bool :=
  literals.any fun p => p.toList.isPrefixOf s.toList

/-- The source that a version names. -/
def Source.ofVersion (version : String) : Source :=
  let s := version.toList
  if startsWithAny ["git+", "git:", "github:"] version || ".git".toList.isSuffixOf s then .git
  else if Text.holds "://" s then .url
  else if startsWithAny ["file:", "link:", "./", "../", "/"] version then .path
  else .registry

namespace Manifest

/-- The file that holds a manifest. -/
def fileName : String := "package.json"

/-- The names of the groups in their order. -/
def groupNames : List String :=
  ["dependencies", "devDependencies", "peerDependencies", "optionalDependencies"]

/-- The groups that a document has as objects. -/
def groups (doc : Fields) : List (String × Fields) :=
  groupNames.filterMap fun group =>
    ((Assoc.find? group doc).bind Json.fields?).map fun deps => (group, deps)

/-- One declared dependency; the version may be missing. -/
structure Declaration where
  name : String
  version : Option String
  group : String
  source : Source
deriving DecidableEq, Repr

/-- The version that a value declares: its text, or none for null. -/
def versionOf : Json → Option String
  | .null => none
  | j => some j.display

/-- The dependencies that a document declares. -/
def declarations (doc : Fields) : List Declaration :=
  (groups doc).flatMap fun (group, deps) =>
    deps.map fun (name, j) =>
      let version := versionOf j
      ⟨name, version, group, Source.ofVersion (version.getD "")⟩

/-- The version of each name, from the first group that declares it. -/
def dependencies (ds : List Declaration) : List (String × String) :=
  ds.foldl (fun known d => Assoc.putNew d.name (d.version.getD "") known) []

/-- The scripts of a document; anything but an object has none. -/
def scripts (doc : Fields) : Fields := ((Assoc.find? "scripts" doc).bind Json.fields?).getD []

/-- The fields of a document, which must be an object. -/
def fieldsOf (j : Json) : Except Failure Fields :=
  match j with
  | .obj fields => .ok fields
  | _ => .error .notObject

/-- Reads a document's text. -/
def readDocument (text : String) : Except Failure Fields :=
  match Json.read text with
  | .error e => .error (.notJson e)
  | .ok j => fieldsOf j

/-- The manifest file of a repository. -/
def pathIn (repo : Path) : Path := repo.child fileName

/-- Reads the manifest of a repository. -/
def load (t : Tree) (repo : Path) : Except Failure Fields :=
  match t.readText (pathIn repo) with
  | .error e => .error e
  | .ok text => readDocument text

/-- Writes the manifest of a repository, which may not hold a point in time. -/
def write (t : Tree) (repo : Path) (doc : Fields) : Tree × Except Failure Unit :=
  if Json.fieldsHoldDate doc then (t, .error .dateInDocument)
  else
    match t.replaceText (pathIn repo) (Json.obj doc).document with
    | (t, .error e) => (t, .error (.file e))
    | (t, .ok ()) => (t, .ok ())

/-- The tree with a manifest that was written. -/
def save (t : Tree) (repo : Path) (doc : Fields) : Except Failure Tree :=
  match write t repo doc with
  | (_, .error e) => .error e
  | (t, .ok ()) => .ok t

/-- A document with a group's entries replaced. -/
def setGroup (doc : Fields) (group : String) (deps : Fields) : Fields :=
  Assoc.put group (.obj deps) doc

end Manifest
end BuildRepair
