import BuildRepair.Assoc
import BuildRepair.Failure

/-
  File trees as values. A tree lists what stands at each place, which is the list of names that leads
  to it from the root, and says which place is the working directory. A file holds text, or bytes
  that are no text. Operations take paths, follow them through the tree and fail as the file system
  does.
-/

namespace BuildRepair

/-- What a file holds. -/
inductive Content where
  | text (s : String)
  /-- Bytes that are not the writing of any text. -/
  | bytes (b : List UInt8)
deriving DecidableEq, Repr, Inhabited

/-- The content that some bytes are. -/
def Content.ofBytes (b : List UInt8) : Content :=
  match Text.Utf8.decode b with
  | .ok s => .text (String.ofList s)
  | .error _ => .bytes b

/-- What stands at a place. -/
inductive Entry where
  | file (content : Content)
  | directory
deriving DecidableEq, Repr, Inhabited

/-- A place: the names that lead to it from the root. -/
abbrev Place := List String

/-- What stands at each place, and the place of the working directory. -/
structure Tree where
  entries : List (Place × Entry) := []
  working : Place := []
deriving DecidableEq, Repr, Inhabited

namespace Tree

/-- What stands at a place; the root itself is always there. -/
def get? (t : Tree) (l : Place) : Option Entry :=
  if l = [] then some .directory else Assoc.find? l t.entries

/-- The tree with an entry at a place. -/
def put (t : Tree) (l : Place) (e : Entry) : Tree :=
  { t with entries := Assoc.put l e t.entries }

/-- The tree without what stands at a place. -/
def erase (t : Tree) (l : Place) : Tree :=
  { t with entries := Assoc.erase l t.entries }

/-- The tree without a place and everything under it. -/
def prune (t : Tree) (l : Place) : Tree :=
  { t with entries := t.entries.filter fun p => !l.isPrefixOf p.1 }

/-- The tree with a directory at a place, if nothing stands there. -/
def ensure (t : Tree) (l : Place) : Tree :=
  if (t.get? l).isSome then t else t.put l .directory

/-- The tree with an entry at a place and directories above it. -/
def plant (t : Tree) (l : Place) (e : Entry) : Tree :=
  let above := (List.range l.length).foldl (fun t n => t.ensure (l.take n)) t
  match e with
  | .file _ => above.put l e
  | .directory => above.ensure l

/-- The longest name of a file, in bytes. -/
def nameLimit : Nat := 255

/-- The longest path, in bytes. -/
def pathLimit : Nat := 4095

/-- Follows names from a place; each name but the last must lead to a directory. Above the root there
is the root itself. -/
def walk (t : Tree) (here : Place) : List String → Except FileCause (Place × Option Entry)
  | [] => .ok (here, t.get? here)
  | name :: rest =>
    match t.get? here with
    | none => .error .missing
    | some (.file _) => .error .notDirectory
    | some .directory =>
      if name = ".." then walk t here.dropLast rest
      else if nameLimit < name.utf8ByteSize then .error .nameTooLong
      else walk t (here ++ [name]) rest

/-- The place where a path starts. -/
def start (t : Tree) (p : Path) : Place := if p.isLocal then t.working else []

/-- Whether a half stands for a byte above 127 in a name. -/
def isByteHalf (n : Nat) : Bool := 0xDC80 ≤ n && n ≤ 0xDCFF

/-- The place that a path leads to and what stands there. -/
def locate (t : Tree) (p : Path) : Except FileError (Place × Option Entry) :=
  match Text.Utf8.halvesIn? isByteHalf p.text.toList with
  | some e => .error (.unencodable e)
  | none =>
    if p.parts.any (·.toList.contains (Char.ofNat 0)) then .error .nullCharacter
    else if pathLimit < p.text.utf8ByteSize then .error (.system .nameTooLong p.text)
    else
      match t.walk (t.start p) p.parts with
      | .ok found => .ok found
      | .error cause => .error (.system cause p.text)

/-- What stands where a path leads, if the path leads anywhere; only a name that is too long
makes looking fail. -/
def look (t : Tree) (p : Path) : Except FileError (Option Entry) :=
  match t.locate p with
  | .ok (_, e) => .ok e
  | .error (.system .nameTooLong text) => .error (.system .nameTooLong text)
  | .error _ => .ok none

/-- Whether anything stands where a path leads. -/
def holds (t : Tree) (p : Path) : Except FileError Bool := (t.look p).map (·.isSome)

/-- The first of some values that a check finds there. The checks run in order until one fails. -/
def firstThere (check : α → Except FileError Bool) : List α → Except FileError (Option α)
  | [] => .ok none
  | a :: rest =>
    match check a with
    | .error e => .error e
    | .ok true => .ok (some a)
    | .ok false => firstThere check rest

/-- Whether a directory stands where a path leads. -/
def isDirectory (t : Tree) (p : Path) : Except FileError Bool :=
  (t.look p).map (· == some .directory)

/-- The text of a file as read: every line end is a line feed. -/
def readText (t : Tree) (p : Path) : Except Failure String :=
  match t.locate p with
  | .error e => .error (.file e)
  | .ok (_, none) => .error (.file (.system .missing p.text))
  | .ok (_, some .directory) => .error (.file (.system .isDirectory p.text))
  | .ok (_, some (.file (.text s))) => .ok (String.ofList (Text.unifyLineEnds s.toList))
  | .ok (_, some (.file (.bytes b))) =>
    match Text.Utf8.decode b with
    | .ok s => .ok (String.ofList (Text.unifyLineEnds s))
    | .error e => .error (.notText e)

/-- The tree with a file of a text where a path leads; a directory is not overwritten. -/
def writeText (t : Tree) (p : Path) (s : String) : Except FileError Tree :=
  match t.locate p with
  | .error e => .error e
  | .ok (_, some .directory) => .error (.system .isDirectory p.text)
  | .ok (l, _) => .ok (t.put l (.file (.text s)))

/-- The tree without the file that a path leads to. -/
def remove (t : Tree) (p : Path) : Except FileError Tree :=
  match t.locate p with
  | .error e => .error e
  | .ok (_, none) => .error (.system .missing p.text)
  | .ok (_, some .directory) => .error (.system .isDirectory p.text)
  | .ok (l, some (.file _)) => .ok (t.erase l)

/-- The tree with one new directory. A working directory that is gone is not made again. -/
def makeDirectory (t : Tree) (p : Path) : Except FileError Tree :=
  match t.locate p with
  | .error e => .error e
  | .ok (_, some _) => .error (.system .exists p.text)
  | .ok (l, none) =>
    if p.parts = [] then .error (.system .missing p.text) else .ok (t.put l .directory)

/-- A directory that is there already is as good as a new one. -/
def orExisting (t : Tree) (p : Path) (e : FileError) : Tree × Except FileError Unit :=
  match t.isDirectory p with
  | .ok true => (t, .ok ())
  | _ => (t, .error e)

/-- Makes a directory and the missing ones above it, `depth` levels up at most. Directories made
before a failure stay. -/
def makeDirectoriesTo (t : Tree) (p : Path) : Nat → Tree × Except FileError Unit
  | 0 => (t, .error (.system .missing p.text))
  | depth + 1 =>
    match t.makeDirectory p with
    | .ok t => (t, .ok ())
    | .error (.system .missing text) =>
      if p.parent = p then (t, .error (.system .missing text))
      else
        match makeDirectoriesTo t p.parent depth with
        | (t, .error e) => (t, .error e)
        | (t, .ok ()) =>
          match t.makeDirectory p with
          | .ok t => (t, .ok ())
          | .error e => t.orExisting p e
    | .error (.system cause text) => t.orExisting p (.system cause text)
    | .error e => (t, .error e)

/-- Makes a directory and the missing ones above it, unless it is there. -/
def makeDirectories (t : Tree) (p : Path) : Tree × Except FileError Unit :=
  t.makeDirectoriesTo p (p.parts.length + 1)

/-- What stands below the working directory, by its names in writing from there: the content of a
file, or none for an empty directory. Directories that hold something are left out. -/
def listing (t : Tree) : List (String × Option Content) :=
  t.entries.filterMap fun p =>
    if t.working.isPrefixOf p.1 && p.1 != t.working then
      let name := String.intercalate "/" (p.1.drop t.working.length)
      match p.2 with
      | .file c => some (name, some c)
      | .directory =>
        if t.entries.any fun q => q.1.length == p.1.length + 1 && p.1.isPrefixOf q.1 then none
        else some (name ++ "/", none)
    else none

theorem get?_put (t : Tree) (k l : Place) (e : Entry) (h : k ≠ []) :
    (t.put k e).get? l = if k = l then some e else t.get? l := by
  by_cases hl : l = []
  · subst hl
    simp [get?, h]
  · by_cases hk : k = l
    · subst hk
      simp [get?, put, hl, Assoc.find?_put]
    · simp [get?, put, hl, hk, Assoc.find?_put]

end Tree
end BuildRepair
