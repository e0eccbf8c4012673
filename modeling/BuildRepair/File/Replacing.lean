import BuildRepair.File.Tree
import BuildRepair.Text.Number

/-
  Replacing a file as a whole. The new text goes into a temporary file beside the old one, which it
  then takes the place of, so that no path ever leads to half of the text. Every step changes the
  tree at once, and what was done before a failure stays done unless it is undone here.
-/

namespace BuildRepair

/-- The path of a temporary file beside a path: hidden, and told apart from others by a mark. -/
def Path.beside (p : Path) (mark : Nat) : Path :=
  let name := p.parts.getLast?.getD ""
  ⟨p.root, p.parts.dropLast ++
    ["." ++ name ++ "." ++ String.ofList (Text.hexText 8 mark) ++ ".tmp"]⟩

namespace Tree

/-- The tree with a new empty file; nothing may stand where it is made. -/
def create (t : Tree) (p : Path) : Except FileError Tree :=
  match t.locate p with
  | .error e => .error e
  | .ok (_, some _) => .error (.system .exists p.text)
  | .ok (l, none) => .ok (t.put l (.file (.text "")))

/-- Makes a temporary file beside a path, marked with the first number below a limit that is not
taken, counting down. -/
def createBeside (t : Tree) (p : Path) : Nat → Except FileError (Tree × Path)
  | 0 => .error (.system .exists p.text)
  | mark + 1 =>
    match t.create (p.beside mark) with
    | .ok t => .ok (t, p.beside mark)
    | .error (.system .exists _) => createBeside t p mark
    | .error e => .error e

/-- Moves a file to where another path leads. A file there makes way, a directory does not. -/
def move (t : Tree) (p q : Path) : Except FileError Tree :=
  match t.locate p with
  | .error e => .error e
  | .ok (_, none) => .error (.system .missing p.text)
  | .ok (_, some .directory) => .error (.system .isDirectory p.text)
  | .ok (k, some (.file content)) =>
    match t.locate q with
    | .error e => .error e
    | .ok (_, some .directory) => .error (.system .isDirectory q.text)
    | .ok (l, _) => .ok ((t.erase k).put l (.file content))

/-- The tree without the file that a path leads to, if there is one. -/
def discard (t : Tree) (p : Path) : Tree :=
  match t.remove p with
  | .ok t => t
  | .error _ => t

/-- Replaces what a path leads to by a file of a text, or makes that file. A temporary file that
cannot take its place is taken away again. There are more marks than files that could have them. -/
def replaceText (t : Tree) (p : Path) (s : String) : Tree × Except FileError Unit :=
  match t.createBeside p (t.entries.length + 1) with
  | .error e => (t, .error e)
  | .ok (t, temporary) =>
    match t.writeText temporary s with
    | .error e => (t.discard temporary, .error e)
    | .ok t =>
      match t.move temporary p with
      | .error e => (t.discard temporary, .error e)
      | .ok t => (t, .ok ())

end Tree
end BuildRepair
