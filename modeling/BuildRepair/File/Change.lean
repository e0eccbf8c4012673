import BuildRepair.File.Tree

/-
  What has to be done to turn one tree into another, and which part of a tree some paths can see.
-/

namespace BuildRepair

/-- One step that changes what stands at a place. -/
inductive Change where
  | makeDirectory (l : Place)
  | write (l : Place) (content : Content)
  | removeFile (l : Place)
  | removeDirectory (l : Place)
deriving DecidableEq, Repr

/-- The step that takes away an entry. -/
def Change.removal (l : Place) : Entry → Change
  | .file _ => .removeFile l
  | .directory => .removeDirectory l

/-- The step that sets an entry. -/
def Change.setting (l : Place) : Entry → Change
  | .file content => .write l content
  | .directory => .makeDirectory l

namespace Tree

/-- The steps that turn one tree into another. A directory is taken away with all it holds, and
directories are made before what they hold. -/
def changes (before after : Tree) : List Change :=
  let gone := before.entries.filter fun p => (after.get? p.1).isNone
  let topmost := gone.filter fun p =>
    !gone.any fun q => q.1.length < p.1.length && q.1.isPrefixOf p.1
  let new := after.entries.filter fun p => before.get? p.1 != some p.2
  topmost.map (fun p => .removal p.1 p.2) ++ new.map fun p => .setting p.1 p.2

/-- The place that a path names in a tree without links. -/
def placeOf (t : Tree) (p : Path) : Place :=
  p.parts.foldl (fun here name => if name = ".." then here.dropLast else here ++ [name]) (t.start p)

/-- The places on the way to a path, the first one next to the root. -/
def placesTo (t : Tree) (p : Path) : List Place :=
  let l := t.placeOf p
  (List.range l.length).map fun n => l.take (n + 1)

end Tree
end BuildRepair
