import BuildRepair.Text.Line

/-
  Paths as written. A path is its root, empty for a relative one, and its parts; `.` and empty
  parts are left out and `..` is kept, since what it names depends on the tree. The working
  directory has a full name too, in which `<cwd>` stands for whatever it is.
-/

namespace BuildRepair

/-- A path: a root, which is empty, one slash, exactly two, or the full name of the working
directory, and the parts under it. -/
structure Path where
  root : String
  parts : List String
deriving DecidableEq, Repr, Inhabited

namespace Path

/-- The working directory by its full name. -/
def working : Path := ⟨"<cwd>/", []⟩

/-- Whether a path starts at the working directory. -/
def isLocal (p : Path) : Bool := p.root == "" || p.root == working.root

/-- The root that a path text begins with. -/
def rootOf : List Char → String
  | '/' :: '/' :: '/' :: _ => "/"
  | '/' :: '/' :: _ => "//"
  | '/' :: _ => "/"
  | _ => ""

/-- The path that a text names. -/
def ofString (s : String) : Path :=
  let pieces := (Text.splitOn '/' s.toList).map String.ofList
  ⟨rootOf s.toList, pieces.filter fun p => p != "" && p != "."⟩

/-- A path in writing; the empty relative path is a point. -/
def text (p : Path) : String :=
  if p.root = "" ∧ p.parts = [] then "." else p.root ++ String.intercalate "/" p.parts

/-- The path `q` seen from `p`: an absolute one is itself. -/
def join (p q : Path) : Path := if q.root = "" then ⟨p.root, p.parts ++ q.parts⟩ else q

/-- The path that a text names, seen from `p`. -/
def child (p : Path) (s : String) : Path := p.join (ofString s)

/-- The path without its last part. -/
def parent (p : Path) : Path := ⟨p.root, p.parts.dropLast⟩

end Path
end BuildRepair
