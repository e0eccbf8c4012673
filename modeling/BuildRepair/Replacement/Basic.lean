import BuildRepair.Manifest

/-
  Replacements of packages by others, and their effect on a manifest. `apply` renames a package
  in each group that declares it, at its place, and maps its version; `applyAll` does so for
  several replacements one after the other and reports each change.
-/

namespace BuildRepair

/-- A package and what to use in its place. -/
structure Replacement where
  oldName : String
  /-- Empty if the package is only to be removed. -/
  newName : String
  /-- Versions of the old package and those of the new one; `*` stands for every other version. -/
  versions : List (String × String)
  /-- Whether code that uses the package has to change. -/
  manual : Bool := false
  /-- How the code has to change. -/
  note : Option String := none
deriving DecidableEq, Repr, Inhabited

namespace Replacement

/-- The version of the new package for a version of the old one. -/
def mapVersion (r : Replacement) (current : String) : String :=
  match Assoc.find? current r.versions with
  | some v => v
  | none => (Assoc.find? "*" r.versions).getD current

/-- The version of the new package for a declared value. A value that is no string matches no
version, and an array or object cannot be looked up. -/
def mapValue (r : Replacement) (current : Json) : Except Failure Json :=
  match current with
  | .str v => .ok (.str (r.mapVersion v))
  | j =>
    if j.isKey then .ok ((Assoc.find? "*" r.versions).elim j .str)
    else .error (.notKey j)

/-- One change that a replacement made in one group. -/
structure Change where
  package : String
  oldVersion : Json
  newVersion : Json
  manual : Bool
deriving Repr

/-- The entries of a group with the old name replaced at its place. An entry that had the new name
already makes way for it, and an empty new name leaves none behind. -/
def rename (oldName newName : String) (version : Json) (deps : Fields) : Fields :=
  deps.filterMap fun (name, value) =>
    if name = oldName then (if newName = "" then none else some (newName, version))
    else if name = newName then none
    else some (name, value)

/-- A document and the change, after a replacement in one group; neither changes if the group does
not declare the old name. -/
def applyTo (r : Replacement) (doc : Fields) (group : String) (deps : Fields) :
    Except Failure (Fields × List Change) :=
  match Assoc.find? r.oldName deps with
  | none => .ok (doc, [])
  | some old =>
    match r.mapValue old with
    | .error e => .error e
    | .ok new =>
      let deps :=
        if r.newName = r.oldName then Assoc.put r.newName new deps
        else rename r.oldName r.newName new deps
      .ok (Manifest.setGroup doc group deps, [⟨r.newName, old, new, r.manual⟩])

/-- Applies a replacement in some groups of a document, in order. -/
def applyGroups (r : Replacement) (doc : Fields) :
    List (String × Fields) → Except Failure (Fields × List Change)
  | [] => .ok (doc, [])
  | (group, deps) :: rest =>
    match r.applyTo doc group deps with
    | .error e => .error e
    | .ok (doc, changes) =>
      match applyGroups r doc rest with
      | .error e => .error e
      | .ok (doc, more) => .ok (doc, changes ++ more)

/-- A document after a replacement in all its groups, and the changes. -/
def apply (r : Replacement) (doc : Fields) : Except Failure (Fields × List Change) :=
  r.applyGroups doc (Manifest.groups doc)

/-- A document after several replacements in order, and the changes. -/
def applyAll : List Replacement → Fields → Except Failure (Fields × List Change)
  | [], doc => .ok (doc, [])
  | r :: rs, doc =>
    match r.apply doc with
    | .error e => .error e
    | .ok (doc, changes) =>
      match applyAll rs doc with
      | .error e => .error e
      | .ok (doc, more) => .ok (doc, changes ++ more)

/-- Applies replacements to the manifest of a repository. It is written once, and only if something
changed. -/
def execute (rs : List Replacement) (t : Tree) (repo : Path) :
    Except Failure (Tree × List Change) :=
  match Manifest.load t repo with
  | .error e => .error e
  | .ok doc =>
    match applyAll rs doc with
    | .error e => .error e
    | .ok (_, []) => .ok (t, [])
    | .ok (doc, changes) =>
      match Manifest.save t repo doc with
      | .error e => .error e
      | .ok t => .ok (t, changes)

end Replacement
end BuildRepair
