import BuildRepair.Text.Line

/-
  Semantic versions: three numbers without leading zeros, then perhaps a pre-release after a
  hyphen and build metadata after a plus sign, each of dot-separated identifiers. A number may
  continue in decimal digits of any script.
-/

namespace BuildRepair.Semver

/-- A digit from one to nine. -/
def isLeadingDigit (c : Char) : Bool := '1' ≤ c && c ≤ '9'

/-- A letter of ASCII or a hyphen. -/
def isLetter (c : Char) : Bool := Text.isAsciiLetter c || c == '-'

/-- A character of a build identifier. -/
def isIdentifierChar (c : Char) : Bool := isLetter c || Text.isAsciiDigit c

/-- A zero alone, or digits that do not begin with one. -/
def isNumber : List Char → Bool
  | [] => false
  | ['0'] => true
  | c :: s => isLeadingDigit c && s.all Text.isDigit

/-- Digits, then a letter or hyphen, then any identifier characters. -/
def isNamed (s : List Char) : Bool :=
  match s.dropWhile Text.isDigit with
  | [] => false
  | c :: s => isLetter c && s.all isIdentifierChar

/-- An identifier of a pre-release. -/
def isPrerelease (s : List Char) : Bool := isNumber s || isNamed s

/-- An identifier of build metadata. -/
def isBuild (s : List Char) : Bool := !s.isEmpty && s.all isIdentifierChar

/-- What comes before the first `sep`, and what after it if there is one. -/
def cut (sep : Char) : List Char → List Char × Option (List Char)
  | [] => ([], none)
  | c :: s =>
    if c = sep then ([], some s)
    else
      let r := cut sep s
      (c :: r.1, r.2)

/-- Whether the dot-separated pieces of a text all satisfy `p`. -/
def allPieces (p : List Char → Bool) (s : List Char) : Bool := (Text.splitOn '.' s).all p

/-- Whether a text is a semantic version. -/
def isVersion (s : List Char) : Bool :=
  let atPlus := cut '+' s
  let atHyphen := cut '-' atPlus.1
  (Text.splitOn '.' atHyphen.1).length == 3 && allPieces isNumber atHyphen.1 &&
    atHyphen.2.all (allPieces isPrerelease) && atPlus.2.all (allPieces isBuild)

end BuildRepair.Semver
