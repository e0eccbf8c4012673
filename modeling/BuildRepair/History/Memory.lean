import BuildRepair.File.Replacing
import BuildRepair.History.Stored
import BuildRepair.Settings
import BuildRepair.Text.Sha256

/-
  What is remembered while the program runs: the history of each repository seen, and for each
  pattern of fault the first remedy that ever worked. Each repository has one history file, and a
  file that cannot be read counts as none.
-/

namespace BuildRepair

/-- The histories of repositories and the first remedy of each pattern. -/
structure Memory where
  histories : List (String × History) := []
  patterns : List (Json × Remedy) := []
  /-- A directory that holds every history file; without one each is kept with its repository. -/
  base : Option Path := none
deriving Inhabited

namespace Memory

/-- The history of a repository, empty if there is none. -/
def history (m : Memory) (repo : String) (now : Timestamp) : History :=
  (Assoc.find? repo m.histories).getD (.empty repo now)

/-- The memory with a history for a repository. -/
def opened (m : Memory) (repo : String) (now : Timestamp) : Memory :=
  { m with histories := Assoc.putNew repo (.empty repo now) m.histories }

/-- The memory with a remedy for a pattern, unless the pattern has one already. -/
def learn (m : Memory) (pattern : Json) (remedy : Remedy) : Memory :=
  { m with patterns := Assoc.putNew pattern remedy m.patterns }

/-- The memory after a remedy worked for a fault of a repository. -/
def record (m : Memory) (repo pattern : String) (remedy : Remedy) (now : Timestamp) : Memory :=
  let h := (m.history repo now).record pattern remedy now
  { m with histories := Assoc.put repo h m.histories }.learn (.str pattern) remedy

/-- A remedy that worked for a pattern: the first one ever, else one of any repository. -/
def successful (m : Memory) (pattern : String) : Option Remedy :=
  Assoc.find? (.str pattern) m.patterns <|>
    m.histories.findSome? fun p => p.2.remedyFor pattern

/-- The best remedy known for a pattern: one of the repository itself, else the first one ever. -/
def best (m : Memory) (repo pattern : String) (now : Timestamp) : Option Remedy :=
  (m.history repo now).remedyFor pattern <|> Assoc.find? (.str pattern) m.patterns

/-- The memory without any history or pattern. -/
def cleared (m : Memory) : Memory := { m with histories := [], patterns := [] }

/-! Files -/

/-- How many characters of a repository's name a directory is named by. -/
def nameLimit : Nat := 64

/-- A repository's name with everything but ASCII letters, digits, `_` and `-` replaced. -/
def safeName (repo : String) : String :=
  let keep (c : Char) : Bool := Text.isAsciiLetter c || Text.isAsciiDigit c || c == '_' || c == '-'
  String.ofList ((repo.toList.map fun c => if keep c then c else '_').take nameLimit)

/-- The first digits of a text's digest. -/
def shortDigest (s : String) : Except Failure String :=
  match Text.Sha256.ofString? s with
  | .error e => .error (.notEncodable e)
  | .ok digest => .ok (String.ofList (digest.toList.take 12))

/-- The directory of a repository: itself if it is a path, else one under the working directory
that is named by the digest of its name. -/
def directoryOf (t : Tree) (repo : String) : Except Failure Path :=
  match t.holds (.ofString repo) with
  | .error e => .error (.file e)
  | .ok there =>
    if there || repo.toList.head? == some '/' || repo.toList.head? == some '.' then
      .ok (.ofString repo)
    else
      (shortDigest repo).map (Path.working.child Settings.default.historyDirectory).child

/-- The history file of a repository. -/
def path (m : Memory) (t : Tree) (repo : String) : Except Failure Path :=
  match m.base with
  | some base => .ok ((base.child (safeName repo)).child Settings.historyFile)
  | none =>
    match directoryOf t repo with
    | .error e => .error e
    | .ok p => .ok ((p.child Settings.default.historyDirectory).child Settings.historyFile)

/-- Writes a history to a file, in directories made where they are missing. Directories made
before a failure stay. -/
def write (h : History) (t : Tree) (p : Path) : Tree × Except Failure Unit :=
  match t.makeDirectories p.parent with
  | (t, .error e) => (t, .error (.file e))
  | (t, .ok ()) =>
    match h.toText with
    | .error e => (t, .error e)
    | .ok text =>
      match t.replaceText p text with
      | (t, .error e) => (t, .error (.file e))
      | (t, .ok ()) => (t, .ok ())

/-- Writes the history file of a repository, from a given history or the one remembered, which is
the one remembered from then on. -/
def save (m : Memory) (t : Tree) (repo : String) (given : Option History) (now : Timestamp) :
    Tree × Memory × Except Failure Unit :=
  let h := given.getD (m.history repo now)
  let m := if given.isSome then m else m.opened repo now
  match m.path t repo with
  | .error e => (t, m, .error e)
  | .ok p =>
    match write h t p with
    | (t, .error e) => (t, m, .error e)
    | (t, .ok ()) => (t, { m with histories := Assoc.put repo h m.histories }, .ok ())

/-- Learns the remedies of fixes in order. A pattern that is an array or object cannot be learnt. -/
def learnAll (m : Memory) : List Fix → Memory × Except Failure Unit
  | [] => (m, .ok ())
  | f :: fs => if f.pattern.isKey then learnAll (m.learn f.pattern f.remedy) fs
    else (m, .error (.notKey f.pattern))

/-- Whether a history file with such a fault counts as none. -/
def isIgnored : Failure → Bool
  | .lacks .. | .infiniteCount | .dateOutOfRange => false
  | _ => true

/-- The history in a file. -/
def read (t : Tree) (p : Path) : Except Failure History :=
  match t.readText p with
  | .error e => .error e
  | .ok text => History.ofText text

/-- Takes in the history of a file that was read for a repository. -/
def adopt (m : Memory) (repo : String) (h : History) : Memory × Except Failure (Option History) :=
  match { m with histories := Assoc.put repo h m.histories }.learnAll h.fixes with
  | (m, .error e) => (m, .error e)
  | (m, .ok ()) => (m, .ok (some h))

/-- The history of a repository, from its file unless it is remembered; none if there is no file
that can be read. -/
def load (m : Memory) (t : Tree) (repo : String) : Memory × Except Failure (Option History) :=
  match Assoc.find? repo m.histories with
  | some h => (m, .ok (some h))
  | none =>
    match m.path t repo with
    | .error e => (m, .error e)
    | .ok p =>
      match t.holds p with
      | .error e => (m, .error (.file e))
      | .ok false => (m, .ok none)
      | .ok true =>
        match read t p with
        | .ok h => m.adopt repo h
        | .error e => (m, if isIgnored e then .ok none else .error e)

end Memory
end BuildRepair
