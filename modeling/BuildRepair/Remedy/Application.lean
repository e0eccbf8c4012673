import BuildRepair.Manifest
import BuildRepair.Remedy.Basic

/-
  What a remedy does to a repository. It edits the manifest, adds a setting to `.npmrc` or removes
  a lockfile. Each operation on files changes the tree at once, and a tree is handed on as it stands
  also when an operation fails. `apply` says whether the remedy succeeded and, if not, which
  obstacle it met.
-/

namespace BuildRepair

/-- What keeps a remedy from being applied. -/
inductive Obstacle where
  | noManifest
  | invalidManifest (e : Json.ReadError)
  | notDeclared (package : Json)
  /-- What should be applied is no remedy. -/
  | noRemedy (text : String)
  | failed (e : Failure)
deriving Repr

/-- An obstacle in words. -/
def Obstacle.message : Obstacle → String
  | .noManifest => "package.json not found"
  | .invalidManifest e => "Invalid package.json: " ++ e.message
  | .notDeclared package => "Package " ++ package.display ++ " not found in package.json"
  | .noRemedy text => "Unknown strategy type: " ++ Text.quotedString text
  | .failed e => e.message

/-- How an application ended. -/
structure Application where
  /-- The remedy that was in fact applied. -/
  remedy : Remedy
  obstacle : Option Obstacle := none
deriving Repr

/-- Whether a remedy was applied. -/
def Application.success (a : Application) : Bool := a.obstacle.isNone

namespace Remedy

/-! The manifest -/

/-- The name that a value gives to a field, if it can serve as one. -/
def fieldName? : Json → Except Failure String
  | .str s => .ok s
  | .date _ => .error .dateAsName
  | j => if j.isKey then .ok j.compact else .error (.notKey j)

/-- The name and version under which a group declares a package. Only a string can be declared, and
an array or object cannot even be looked up. -/
def declared? (package : Json) (deps : Fields) : Except Failure (Option (String × Json)) :=
  match package with
  | .str p => .ok ((Assoc.find? p deps).map fun version => (p, version))
  | j => if j.isKey then .ok none else .error (.notKey j)

/-- The entries of a group after an edit, and whether the edit counts as one. -/
abbrev Edited := Except Failure (Fields × Bool)

/-- Sets the version of a package. -/
def adjust (package version : Json) (deps : Fields) : Edited :=
  match declared? package deps with
  | .error e => .error e
  | .ok none => .ok (deps, false)
  | .ok (some (name, _)) => .ok (Assoc.put name version deps, true)

/-- The entries with a package under another name, at its place and with its version; an entry of
that name makes way. A value that does not count as present is no name. -/
def renamed (name : String) (replacement version : Json) (deps : Fields) : Except Failure Fields :=
  match replacement with
  | .str new =>
    .ok (deps.filterMap fun (k, value) =>
      if k = name then (if new = "" then none else some (new, version))
      else if k = new then none
      else some (k, value))
  | j =>
    if !j.truthy then .ok (Assoc.erase name deps)
    else
      (fieldName? j).map fun new =>
        deps.map fun (k, value) => if k = name then (new, version) else (k, value)

/-- Puts another package in the place of one. -/
def substitute (package replacement : Json) (deps : Fields) : Edited :=
  match declared? package deps with
  | .error e => .error e
  | .ok none => .ok (deps, false)
  | .ok (some (name, version)) =>
    (renamed name replacement version deps).map fun deps => (deps, true)

/-- Drops a package; one without a version is dropped, but does not count. -/
def drop (package : Json) (deps : Fields) : Edited :=
  if deps.isEmpty then .ok (deps, false)
  else
    match declared? package deps with
    | .error e => .error e
    | .ok none => .ok (deps, false)
    | .ok (some (name, .null)) => .ok (Assoc.erase name deps, false)
    | .ok (some (name, _)) => .ok (Assoc.erase name deps, true)

/-- A document after an edit of each of some groups, and whether any edit counts. -/
def editGroups (edit : Fields → Edited) (doc : Fields) :
    List (String × Fields) → Except Failure (Fields × Bool)
  | [] => .ok (doc, false)
  | (group, deps) :: rest =>
    match edit deps with
    | .error e => .error e
    | .ok (deps, counts) =>
      match editGroups edit (Manifest.setGroup doc group deps) rest with
      | .error e => .error e
      | .ok (doc, others) => .ok (doc, counts || others)

/-- The blocks in which package managers look for pinned versions. -/
def pinBlocks : List String := ["resolutions", "overrides"]

/-- A document with a version pinned in one block, which starts empty if it is no object. -/
def pinIn (package version : Json) (doc : Fields) (block : String) : Except Failure Fields :=
  let entries := ((Assoc.find? block doc).bind Json.fields?).getD []
  match package with
  | .str p => .ok (Assoc.put block (.obj (Assoc.put p version entries)) doc)
  | j => (fieldName? j).map fun p => Assoc.put block (.obj (entries ++ [(p, version)])) doc

/-- A document with a version pinned in every block. -/
def pin (package version : Json) (doc : Fields) : List String → Except Failure Fields
  | [] => .ok doc
  | block :: rest =>
    match pinIn package version doc block with
    | .error e => .error e
    | .ok doc => pin package version doc rest

/-- The manifest to edit. -/
def manifestOf (t : Tree) (repo : Path) : Except Obstacle Fields :=
  match t.holds (Manifest.pathIn repo) with
  | .error e => .error (.failed (.file e))
  | .ok false => .error .noManifest
  | .ok true =>
    match Manifest.load t repo with
    | .ok doc => .ok doc
    | .error (.notJson (.malformed cause place)) =>
      .error (.invalidManifest (.malformed cause place))
    | .error e => .error (.failed e)

/-- Writes an edited manifest. -/
def saveManifest (t : Tree) (repo : Path) (doc : Fields) : Tree × Except Obstacle Unit :=
  match Manifest.write t repo doc with
  | (t, .error e) => (t, .error (.failed e))
  | (t, .ok ()) => (t, .ok ())

/-- Edits the groups of the manifest; it is written only if an edit counts. -/
def editManifest (package : Json) (edit : Fields → Edited) (t : Tree) (repo : Path) :
    Tree × Except Obstacle Unit :=
  match manifestOf t repo with
  | .error e => (t, .error e)
  | .ok doc =>
    match editGroups edit doc (Manifest.groups doc) with
    | .error e => (t, .error (.failed e))
    | .ok (_, false) => (t, .error (.notDeclared package))
    | .ok (doc, true) => saveManifest t repo doc

/-- Pins a version in the manifest. -/
def pinManifest (package version : Json) (t : Tree) (repo : Path) : Tree × Except Obstacle Unit :=
  match manifestOf t repo with
  | .error e => (t, .error e)
  | .ok doc =>
    match pin package version doc pinBlocks with
    | .error e => (t, .error (.failed e))
    | .ok doc => saveManifest t repo doc

/-! The package manager's settings -/

/-- A settings file with one more setting at its end. -/
def withSetting (setting content : String) : String :=
  let kept := Text.trimString content
  (if kept = "" then "" else kept ++ "\n") ++ setting ++ "\n"

/-- The text of a file, empty if there is none. -/
def textOrEmpty (t : Tree) (p : Path) : Except Failure String :=
  match t.holds p with
  | .error e => .error (.file e)
  | .ok false => .ok ""
  | .ok true => t.readText p

/-- Adds a setting to the settings file unless one of its lines is the setting. -/
def addSetting (setting : String) (t : Tree) (repo : Path) : Tree × Except Obstacle Unit :=
  let p := repo.child ".npmrc"
  match textOrEmpty t p with
  | .error e => (t, .error (.failed e))
  | .ok content =>
    if (Text.lines content.toList).contains setting.toList then (t, .ok ())
    else
      match t.writeText p (withSetting setting content) with
      | .error e => (t, .error (.failed (.file e)))
      | .ok t => (t, .ok ())

/-! Lockfiles -/

/-- The lockfiles of the package managers, in the order in which they are removed. -/
def lockfiles : List String := ["package-lock.json", "yarn.lock", "pnpm-lock.yaml"]

/-- Removes the first file of a list that is there, and says which it was. -/
def removeFirst (t : Tree) (repo : Path) (names : List String) :
    Except FileError (Tree × Option String) :=
  match Tree.firstThere (fun name => t.holds (repo.child name)) names with
  | .error e => .error e
  | .ok none => .ok (t, none)
  | .ok (some name) => (t.remove (repo.child name)).map (·, some name)

/-- The tree without the directory of installed packages. -/
def clearInstalled (t : Tree) (repo : Path) : Except FileError Tree :=
  let p := repo.child "node_modules"
  match t.isDirectory p with
  | .error e => .error e
  | .ok false => .ok t
  | .ok true => (t.locate p).map fun (place, _) => t.prune place

/-- Removes a lockfile. If it is not there, another lockfile and the installed packages go, and the
name of that lockfile is given. -/
def removeLock (lockfile : String) (t : Tree) (repo : Path) : Tree × Except FileError String :=
  match t.holds (repo.child lockfile) with
  | .error e => (t, .error e)
  | .ok true =>
    match t.remove (repo.child lockfile) with
    | .error e => (t, .error e)
    | .ok t => (t, .ok lockfile)
  | .ok false =>
    match removeFirst t repo lockfiles with
    | .error e => (t, .error e)
    | .ok (t, removed) =>
      match clearInstalled t repo with
      | .error e => (t, .error e)
      | .ok t => (t, .ok (removed.getD lockfile))

/-! All remedies -/

/-- What became of an operation for a remedy that was applied as chosen. -/
def asChosen (r : Remedy) (done : Tree × Except Obstacle Unit) : Tree × Except Obstacle Remedy :=
  (done.1, done.2.map fun _ => r)

/-- What became of the removal of a lockfile, as a remedy. -/
def asRemoval (done : Tree × Except FileError String) : Tree × Except Obstacle Remedy :=
  match done with
  | (t, .error e) => (t, .error (.failed (.file e)))
  | (t, .ok lockfile) => (t, .ok (.removeLockfile (.str lockfile)))

/-- The tree after a remedy, and the remedy that was in fact applied or the obstacle. -/
def attempt (r : Remedy) (t : Tree) (repo : Path) : Tree × Except Obstacle Remedy :=
  match r with
  | .adjustVersion package version =>
    asChosen r (editManifest package (adjust package version) t repo)
  | .substitutePackage package replacement =>
    asChosen r (editManifest package (substitute package replacement) t repo)
  | .removePackage package => asChosen r (editManifest package (drop package) t repo)
  | .addResolution package version => asChosen r (pinManifest package version t repo)
  | .legacyPeerDeps => asChosen r (addSetting "legacy-peer-deps=true" t repo)
  | .forceInstall => asChosen r (addSetting "force=true" t repo)
  | .removeLockfile (.str lockfile) => asRemoval (removeLock lockfile t repo)
  | .removeLockfile name => (t, .error (.failed (.notFileName name)))
  | .unknown text => (t, .error (.noRemedy text))

/-- Applies a remedy to a repository. Only a value of the wrong kind makes it fail altogether. -/
def apply (r : Remedy) (t : Tree) (repo : Path) : Except Failure (Tree × Application) :=
  match r.attempt t repo with
  | (t, .ok applied) => .ok (t, ⟨applied, none⟩)
  | (t, .error (.failed e)) =>
    if e.isKindError then .error e else .ok (t, ⟨r, some (.failed e)⟩)
  | (t, .error obstacle) => .ok (t, ⟨r, some obstacle⟩)

end Remedy
end BuildRepair
