import BuildRepair.Diagnosis.Category
import BuildRepair.Text.Scan
import BuildRepair.Text.Line

/-
  Which package a message is about. Each category has its own formats; what is extracted is the
  name of the package, the version asked for and the packages it conflicts with.
-/

namespace BuildRepair

open Text

/-- What a message says about a package. -/
structure PackageMention where
  name : String
  version : Option String := none
  conflicts : Option (List String) := none
deriving DecidableEq, Repr

/-- Single and double quotes. -/
def isQuote (c : Char) : Bool := c == '\'' || c == '"'

/-- Characters of a plain name: no blank, at sign, quote or comma. -/
def isNameChar (c : Char) : Bool := !isBlank c && c != '@' && !isQuote c && c != ','

/-- Characters of a scope: no blank, at sign, slash or quote. -/
def isScopeChar (c : Char) : Bool := !isBlank c && c != '@' && c != '/' && !isQuote c

/-- Characters of a version: no blank, double quote or comma. -/
def isVersionChar (c : Char) : Bool := !isBlank c && c != '"' && c != ','

/-- A package name at the start of a text, with its scope if it starts with an at sign. -/
def nameAt (s : List Char) : Option (List Char × List Char) :=
  match s with
  | '@' :: r => do
    let (scope, r) ← run isScopeChar r
    let r ← literal ['/'] r
    let (name, r) ← run isNameChar r
    return ('@' :: scope ++ '/' :: name, r)
  | s => run isNameChar s

/-- A name, an at sign and a version, which a double quote may precede. -/
def versionedName (s : List Char) : Option PackageMention := do
  let (name, s) ← nameAt s
  let s ← literal ['@'] s
  let (version, _) ← run isVersionChar (optional (· == '"') s)
  return ⟨String.ofList name, some (String.ofList version), none⟩

/-- `peer` with the blanks after it, left out where what follows is no versioned name. -/
def afterPeer (scan : List Char → Option α) (s : List Char) : Option α :=
  let withPeer := do
    let s ← literal "peer".toList s
    let s ← skip isBlank s
    scan s
  withPeer <|> scan s

/-- A versioned name after the words that report an unresolved dependency. -/
def unresolved (s : List Char) : Option PackageMention :=
  let tail (s : List Char) := afterPeer versionedName (s.dropWhile isBlank)
  let dependency := do
    let s ← literal "Could not resolve dependency".toList s
    ((literal [':'] s).bind tail) <|> tail s
  dependency <|> (literal "peer dep missing:".toList s).bind tail

/-- A versioned name, after the words that report an unresolved dependency if there are any. -/
def versionMention (s : List Char) : Option PackageMention :=
  find unresolved s <|> find versionedName s

/-- `peer`, a name with its range in quotes, and the name and version it is wanted from. -/
def peerLine (s : List Char) : Option PackageMention := do
  let s ← literal "peer".toList s
  let s ← skip isBlank s
  let (name, s) ← nameAt s
  let s ← literal ['@', '"'] s
  let (range, s) ← run (· != '"') s
  let s ← literal ['"'] s
  let s ← skip isBlank s
  let s ← literal "from".toList s
  let s ← skip isBlank s
  let (other, s) ← nameAt s
  let s ← literal ['@'] s
  let (version, _) ← run (fun c => !isBlank c) s
  return ⟨String.ofList name, some (String.ofList range),
    some [String.ofList (other ++ '@' :: version)]⟩

/-- A name with its version as one text, and the rest. -/
def conflictName (s : List Char) : Option (String × List Char) := do
  let (name, s) ← nameAt s
  let s ← literal ['@'] s
  let (version, s) ← run isVersionChar s
  return (String.ofList (name ++ '@' :: version), s)

/-- A versioned name after a word that says who requires it. -/
def conflictAt (s : List Char) : Option (String × List Char) :=
  ["requires", "wants", "required by"].findSome? fun word => do
    let s ← literal word.toList s
    let s ← skip isBlank s
    afterPeer conflictName s

/-- Every conflicting package from left to right; a search goes on behind what was found. -/
def conflictsIn : Nat → List Char → List String
  | 0, _ => []
  | _ + 1, [] => []
  | fuel + 1, c :: s =>
    match conflictAt (c :: s) with
    | some (found, rest) => found :: conflictsIn fuel rest
    | none => conflictsIn fuel s

/-- What a message about a peer dependency says. -/
def peerMention (s : List Char) : Option PackageMention :=
  find peerLine s <|>
    (versionMention s).map fun mention =>
      let conflicts := conflictsIn (s.length + 1) s
      { mention with conflicts := if conflicts.isEmpty then none else some conflicts }

/-- A path in quotes after given words. -/
def quotedPath (words : String) (s : List Char) : Option (List Char) := do
  let s ← literal words.toList s
  let s ← one isQuote s
  let (path, s) ← run (fun c => !isQuote c) s
  let _ ← one isQuote s
  return path

/-- The package of an import path: none for a relative or absolute path, the scope and name of a
scoped one, else the first segment. -/
def packageOfPath (path : List Char) : Option (List Char) :=
  match path with
  | '.' :: _ => none
  | '/' :: _ => none
  | '@' :: _ => some (joinWith ['/'] ((splitOn '/' path).take 2))
  | _ => (splitOn '/' path).head?

/-- What a message about a missing module says. -/
def moduleMention (s : List Char) : Option PackageMention := do
  let path ← find (quotedPath "Cannot find module ") s <|>
    find (quotedPath "Can't resolve ") s <|> find (quotedPath "Cannot find package ") s
  let name ← packageOfPath path
  guard (!name.isEmpty)
  return { name := String.ofList name }

/-- Packages known to need a native toolchain. -/
def nativeModules : List String :=
  ["bcrypt", "node-sass", "sharp", "canvas", "sqlite3", "fsevents", "deasync", "fibers"]

/-- Characters of a name in a native build message: no quote, at sign, blank or comma. -/
def isNativeNameChar (c : Char) : Bool := !isQuote c && c != '@' && !isBlank c && c != ','

/-- A name after the word that says what is being built. -/
def builtName (before : Option Char) (s : List Char) : Option (List Char) := do
  guard (atBoundary before s)
  ["for", "in", "building"].findSome? fun word => do
    let s ← anyCase word.toList s
    let s ← skip isBlank s
    let (name, _) ← run isNativeNameChar (optional isQuote s)
    return name

/-- The first name on the rest of a line. -/
def builtOnLine (before : Option Char) : List Char → Option (List Char)
  | [] => builtName before []
  | c :: s =>
    match builtName before (c :: s) with
    | some name => some name
    | none => if c = '\n' then none else builtOnLine (some c) s

/-- The name on the line of a native build tool, after the tool. -/
def nativeBuild (s : List Char) : Option (List Char) :=
  ["node-gyp", "gyp ERR!", "prebuild-install"].findSome? fun tool =>
    (anyCase tool.toList s).bind (builtOnLine tool.toList.getLast?)

/-- Whether `c` reads as a letter of ASCII when case does not count. -/
def readsAsLetter (c : Char) : Bool :=
  isAsciiLetter c || ['i', 's', 'k'].any (sameLetter · c)

/-- Characters of a name after `failed for`. -/
def isFailedNameChar (c : Char) : Bool :=
  readsAsLetter c || isAsciiDigit c || ['_', '@', '/', '.', '-'].contains c

/-- A name after `failed for`. -/
def failedFor (s : List Char) : Option (List Char) := do
  let s ← anyCase "failed".toList s
  let s ← skip isBlank s
  let s ← anyCase "for".toList s
  let s ← skip isBlank s
  let (name, _) ← run isFailedNameChar (optional isQuote s)
  return name

/-- What a message about a native module says. -/
def nativeMention (s : List Char) : Option PackageMention :=
  match find nativeBuild s <|> find failedFor s with
  | some name => some { name := String.ofList name }
  | none => (nativeModules.find? (holds · (lowerText s))).map fun name => { name }

/-- Characters of the names of owners and repositories. -/
def isHostedChar (c : Char) : Bool := isWord c || c == '.' || c == '-'

/-- What may follow the address of a repository. -/
def endsAddress (s : List Char) : Bool :=
  s.head?.all fun c => c == '#' || isBlank c || isQuote c

/-- A repository name without the ending of bare repositories, unless nothing else is left. -/
def withoutGitEnding (name : List Char) : List Char :=
  let stem := name.take (name.length - 4)
  if !stem.isEmpty && name.drop (name.length - 4) == ['.', 'g', 'i', 't'] then stem else name

/-- The repository that an address on the host names. -/
def hostedRepository (s : List Char) : Option (List Char) := do
  let s ← (literal "github.com".toList s).bind (one fun c => c == '/' || c == ':') <|>
    literal "github:".toList s
  let s ← skip isHostedChar s
  let s ← literal ['/'] s
  let (name, s) ← run isHostedChar s
  guard (endsAddress s)
  return withoutGitEnding name

/-- The dependency whose preparation through git failed. -/
def gitFailedFor (s : List Char) : Option (List Char) := do
  let s ← literal "git dep preparation failed".toList s <|>
    literal "Could not resolve git".toList s
  let s ← skip isBlank (s.dropWhile fun c => !isBlank c)
  let s ← literal "for".toList s
  let s ← skip isBlank s
  let (name, _) ← run (fun c => !isQuote c && !isBlank c) (optional isQuote s)
  return name

/-- What a message about a git dependency says. -/
def gitMention (s : List Char) : Option PackageMention :=
  (find hostedRepository s <|> find gitFailedFor s).map fun name =>
    { name := String.ofList name }

/-- What a message of a category says about a package. -/
def mention (category : Category) (s : List Char) : Option PackageMention :=
  match category with
  | .notFound => moduleMention s
  | .versionConflict => versionMention s
  | .peerConflict => peerMention s
  | .nativeModule => nativeMention s
  | .gitDependency => gitMention s
  | _ => none

end BuildRepair
