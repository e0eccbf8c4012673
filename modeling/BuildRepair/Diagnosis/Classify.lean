import BuildRepair.Diagnosis.Category
import BuildRepair.Text.Scan

/-
  Which category a message belongs to. The signs of each category are tested in the order of
  `Category.all`, and the first category with a sign wins. The signs of lockfile, peer, version
  and git faults are found whatever their case.
-/

namespace BuildRepair

open Text

/-- `lock file` or `lockfile` as words of their own. -/
def lockFileWords (before : Option Char) (s : List Char) : Option Unit := do
  guard (atBoundary before s)
  let s ← anyCase "lock".toList s
  let s ← anyCase "file".toList (optional isBlank s)
  guard (atBoundary (some 'e') s)

/-- A quoted range after an at sign, then `from` as a word. -/
def quotedRangeFrom (s : List Char) : Option Unit := do
  let s ← literal ['@', '"'] s
  let s ← skip (· != '"') s
  let s ← literal ['"'] s
  let s ← skip isBlank s
  let s ← anyCase "from".toList s
  guard (atBoundary (some 'm') s)

/-- A quoted range after at least one more character of the same word. -/
def wordThenRange : List Char → Option Unit
  | [] => none
  | c :: s =>
    if isBlank c then none
    else
      match quotedRangeFrom s with
      | some u => some u
      | none => wordThenRange s

/-- `peer`, a package with a quoted range, and where it is wanted from. -/
def peerRequirement (before : Option Char) (s : List Char) : Option Unit := do
  guard (atBoundary before s)
  let s ← anyCase "peer".toList s
  let s ← skip isBlank s
  wordThenRange s

/-- The scheme of a repository reached through git. -/
def gitScheme (s : List Char) : Option Unit := do
  let s ← anyCase "git+".toList s
  let s ← [anyCase "ssh".toList s, anyCase "https".toList s, anyCase "http".toList s].findSome?
    fun rest => rest.bind (literal "://".toList)
  let _ := s

/-- Characters of the names of owners and repositories. -/
def isRepositoryChar (c : Char) : Bool := isWord c || c == '.' || c == '-'

/-- `github:` with an owner and a repository. -/
def githubShorthand (s : List Char) : Option Unit := do
  let s ← anyCase "github:".toList s
  let s ← skip isRepositoryChar s
  let s ← literal ['/'] s
  let _ ← skip isRepositoryChar s

/-- `is not in the npm registry`, with or without its article. -/
def notInRegistry (s : List Char) : Option Unit := do
  let s ← literal "is not in ".toList s
  let s := (literal "the ".toList s).getD s
  let _ ← literal "npm registry".toList s

/-- `Can't resolve` before a quote. -/
def cannotResolve (s : List Char) : Option Unit := do
  let s ← literal "Can't resolve ".toList s
  let _ ← one (fun c => c == '\'' || c == '"') s

/-- A compiler code that starts a word: `TS`, digits whose count satisfies `p`, a colon. -/
def compilerCode (p : List Char → Bool) (before : Option Char) (s : List Char) : Option Unit := do
  guard (atBoundary before s)
  let s ← literal ['T', 'S'] s
  let (digits, s) ← run isDigit s
  guard (p digits)
  let _ ← literal [':'] s

/-- `error TS` before a digit. -/
def errorCode (s : List Char) : Option Unit := do
  let s ← literal "error TS".toList s
  let _ ← one isDigit s

/-- A property in single quotes that does not exist. -/
def missingProperty (s : List Char) : Option Unit := do
  let s ← literal "Property '".toList s
  let s ← skip (· != '\'') s
  let _ ← literal "' does not exist".toList s

namespace Category

/-- Whether a message shows a sign of a category. -/
def shows (s : List Char) : Category → Bool
  | .lockfileConflict =>
    ["ENOLOCK", "EINTEGRITY", "lockfileVersion"].any (holdsAnyCase · s) ||
      (search lockFileWords none s).isSome
  | .peerConflict =>
    ["peer dep missing", "peer dependency missing", "peerDependencies", "unmet peer",
        "conflicting peer dependency"].any (holdsAnyCase · s) ||
      (search peerRequirement none s).isSome
  | .versionConflict =>
    ["ERESOLVE", "Could not resolve dependency", "unable to resolve dependency tree", "ETARGET",
      "No matching version found", "notarget"].any (holdsAnyCase · s)
  | .nativeModule =>
    ["gyp ERR!", "node-gyp", "prebuild-install", "node-pre-gyp",
      "was compiled against a different Node.js version", "NODE_MODULE_VERSION"].any (holds · s)
  | .gitDependency =>
    ["git dep preparation failed", "Could not resolve git", "Permission denied (publickey)",
        "ls-remote"].any (holdsAnyCase · s) ||
      (find gitScheme s).isSome || (find githubShorthand s).isSome
  | .notFound =>
    ["Cannot find module", "Module not found", "Cannot find package", "E404",
        "404 Not Found"].any (holds · s) ||
      (find cannotResolve s).isSome || (find notInRegistry s).isSome
  | .syntaxFault =>
    ["SyntaxError", "Parse error", "Unexpected token", "Unexpected identifier"].any (holds · s) ||
      (search (compilerCode fun d => d.head? == some '1' && d.length == 4) none s).isSome
  | .typeFault =>
    ["TypeError", "is not assignable to", "has no exported member"].any (holds · s) ||
      (search (compilerCode fun d => d.length == 4 || d.length == 5) none s).isSome ||
      (find errorCode s).isSome || (find missingProperty s).isSome
  | .unknown => true

/-- The category of a message: the first one that it shows a sign of. -/
def ofMessage (s : List Char) : Category := (all.find? (shows s)).getD .unknown

end Category
end BuildRepair
