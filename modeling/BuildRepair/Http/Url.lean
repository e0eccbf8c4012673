import BuildRepair.Assoc
import BuildRepair.Http.Label
import BuildRepair.Text.Half
import BuildRepair.Text.Numeral
import BuildRepair.Text.Scan
import BuildRepair.Text.Utf8

/-
  Web addresses. `ofString?` reads an address and brings it into its normal form: scheme and host
  in small letters, no default port, no `.` or `..` between slashes, and characters that may not
  stand in a part as escapes. `join` resolves a reference against an address.
-/

namespace BuildRepair

/-- A web address in normal form. -/
structure Url where
  scheme : List Char := []
  user : List Char := []
  host : List Char := []
  port : Option Int := none
  path : List Char := []
  query : Option (List Char) := none
  fragment : Option (List Char) := none
deriving DecidableEq, Repr, Inhabited

namespace Url

/-! Characters -/

/-- Visible ASCII characters but those of a list. -/
def visibleBut (excluded : String) (c : Char) : Bool :=
  0x20 < c.toNat && c.toNat < 0x7F && !excluded.toList.contains c

/-- Characters that stand for themselves in a path. -/
def inPath : Char → Bool := visibleBut "\"#<>?`\x7b\x7d"

/-- Characters that stand for themselves in a query. -/
def inQuery : Char → Bool := visibleBut "\"#<>"

/-- Characters that stand for themselves in a fragment. -/
def inFragment : Char → Bool := visibleBut "\"<>`"

/-- Characters that stand for themselves before the host. -/
def inUser : Char → Bool := visibleBut "\"#<>?`\x7b\x7d/;=@[\\]^|"

/-- Characters that stand for themselves in a host. -/
def inHost : Char → Bool := visibleBut "#/:<>?@[]^"

/-- One byte as an escape. -/
def escapeByte (b : UInt8) : List Char := '%' :: (Text.hexText 2 b.toNat).map Char.toUpper

/-- A character as itself if it is safe, else as the escapes of its bytes. -/
def escape (safe : Char → Bool) (c : Char) : List Char :=
  if safe c then [c] else (Text.Utf8.encode [c]).flatMap escapeByte

/-- A part with unsafe characters escaped. The percent sign is safe everywhere, so escapes that are
there already stay. -/
def encode (safe : Char → Bool) (s : List Char) : List Char := s.flatMap (escape safe)

/-! Hosts -/

/-- Whether a host looks like an address of four numbers. -/
def looksNumeric (host : List Char) : Bool :=
  let parts := Text.splitOn '.' host
  parts.length == 4 && parts.all fun part => !part.isEmpty && part.all Text.isAsciiDigit

/-- A number up to 255 without leading zeros. -/
def isOctet (s : List Char) : Bool :=
  !s.isEmpty && s.all Text.isAsciiDigit && s.length ≤ 3 && (s.length == 1 || s.head? != some '0') &&
    Text.decimalValue s ≤ 255

/-- Whether a host is an address of four numbers. -/
def isIpv4 (s : List Char) : Bool :=
  let parts := Text.splitOn '.' s
  parts.length == 4 && parts.all isOctet

/-- Up to four hexadecimal digits. -/
def isHexGroup (s : List Char) : Bool :=
  !s.isEmpty && s.length ≤ 4 && s.all fun c => (Text.hexValue? c).isSome

/-- How many groups of sixteen bits stand between colons; the last one of the host may be an
address of four numbers, which is two. -/
def groupCount? (last : Bool) : List (List Char) → Option Nat
  | [] => some 0
  | [g] => if isHexGroup g then some 1 else if last && isIpv4 g then some 2 else none
  | g :: gs => if isHexGroup g then (groupCount? last gs).map (· + 1) else none

/-- A text before and after its first two colons in a row. -/
def splitDoubleColon : List Char → Option (List Char × List Char)
  | ':' :: ':' :: s => some ([], s)
  | c :: s => (splitDoubleColon s).map fun p => (c :: p.1, p.2)
  | [] => none

/-- The groups of a text, which has none if it is empty. -/
def groupsOf (s : List Char) : List (List Char) := if s = [] then [] else Text.splitOn ':' s

/-- Whether a text is an address of eight groups; two colons stand for at least one of them. -/
def isGroups (s : List Char) : Bool :=
  match splitDoubleColon s with
  | none => groupCount? true (Text.splitOn ':' s) == some 8
  | some (before, after) =>
    match groupCount? (after == []) (groupsOf before), groupCount? true (groupsOf after) with
    | some m, some n => before.getLast? != some '.' && m + n < 8
    | _, _ => false

/-- Whether a host is an address of eight groups; it may end in a percent sign and the name of a
zone, which has no other one. -/
def isIpv6 (s : List Char) : Bool :=
  isGroups (s.takeWhile (· ≠ '%')) &&
    match s.dropWhile (· ≠ '%') with
    | [] => true
    | _ :: zone => zone ≠ [] && zone.all fun c => c != '%' && c.toNat < 0x80

/-- A host in normal form. -/
def normalHost? (host : List Char) : Option (List Char) :=
  if looksNumeric host then (if isIpv4 host then some host else none)
  else
    match host with
    | '[' :: inner =>
      if inner.getLast? = some ']' then
        if isIpv6 inner.dropLast then some inner.dropLast else none
      else some (encode inHost (host.map Text.asciiLower))
    | _ =>
      if host.all (·.toNat < 0x80) then some (encode inHost (host.map Text.asciiLower))
      else asciiHost? (Text.lowerText host)

/-! Parts -/

/-- The port that a scheme implies. -/
def defaultPort : List (String × Int) :=
  [("ftp", 21), ("http", 80), ("https", 443), ("ws", 80), ("wss", 443)]

/-- The port of an address, none where the scheme implies it. -/
def normalPort? (scheme port : List Char) : Option (Option Int) :=
  if port = [] then some none
  else
    match Text.readInteger? port with
    | none => none
    | some n =>
      if Assoc.find? (String.ofList scheme) defaultPort = some n then some none else some (some n)

/-- One more component of a path; `..` takes back the last one. -/
def pushComponent (taken : List (List Char)) (component : List Char) : List (List Char) :=
  if component = ['.'] then taken
  else if component = ['.', '.'] then (if taken = [[]] then taken else taken.dropLast)
  else taken ++ [component]

/-- A path without `.` and `..`. -/
def normalPath (path : List Char) : List Char :=
  let components := Text.splitOn '/' path
  if components.contains ['.'] || components.contains ['.', '.'] then
    Text.joinWith ['/'] (components.foldl pushComponent [])
  else path

/-- Characters of a scheme behind its first letter. -/
def inScheme (c : Char) : Bool :=
  Text.isAsciiLetter c || Text.isAsciiDigit c || c == '+' || c == '.' || c == '-'

/-- The scheme of an address, if it has one, and the rest. -/
def splitScheme (s : List Char) : List Char × List Char :=
  let scheme := s.takeWhile inScheme
  match s.dropWhile inScheme with
  | ':' :: rest => if scheme.head?.all Text.isAsciiLetter then (scheme, rest) else ([], s)
  | _ => ([], s)

/-- A text up to one of some characters, and the rest. -/
def splitBefore (stops : List Char) (s : List Char) : List Char × List Char :=
  s.span fun c => !stops.contains c

/-- A part behind a mark, if the mark is there, up to one of some characters, and the rest. -/
def splitMarked (mark : Char) (stops : List Char) (s : List Char) :
    Option (List Char) × List Char :=
  match s with
  | [] => (none, [])
  | c :: rest =>
    if c = mark then
      let (part, rest) := splitBefore stops rest
      (some part, rest)
    else (none, s)

/-- The text before and after the last occurrence of a character. -/
def splitLast (sep : Char) (s : List Char) : Option (List Char × List Char) :=
  if s.contains sep then
    let after := (s.reverse.takeWhile (· != sep)).reverse
    some (s.take (s.length - after.length - 1), after)
  else none

/-- A host in brackets or up to a colon, and the rest. -/
def splitHost (s : List Char) : List Char × List Char :=
  match s.head?, splitLast ']' s with
  | some '[', some (inside, after) => (inside ++ [']'], after)
  | _, _ => splitBefore [':', '@'] s

/-- The part before the host, the host and the port. -/
def splitAuthority (s : List Char) : List Char × List Char × List Char :=
  let (user, s) := (splitLast '@' s).getD ([], s)
  let (host, s) := splitHost s
  (user, host, if s.head? = some ':' then s.drop 1 else s)

/-- The longest address. -/
def lengthLimit : Nat := 65536

/-- Whether an ASCII character has no visible form. -/
def isControl (c : Char) : Bool := c.toNat < 0x20 || c.toNat == 0x7F

/-- The address of parts as they are written. A path behind a host starts with a slash. -/
def ofParts? (scheme user host port path : List Char) (query fragment : Option (List Char)) :
    Option Url := do
  let host ← normalHost? host
  let port ← normalPort? scheme port
  let user := encode inUser user
  let hosted := user ≠ [] || host ≠ [] || port ≠ none
  guard (!hosted || path.isEmpty || path.head? == some '/')
  let rooted := scheme ≠ [] || hosted
  guard (rooted || !("//".toList.isPrefixOf path || path.head? == some ':'))
  return {
    scheme := scheme.map Text.asciiLower, user, host, port
    path := encode inPath (if rooted then normalPath path else path)
    query := query.map (encode inQuery)
    fragment := fragment.map (encode inFragment) }

/-- The address that a text denotes. -/
def ofChars? (s : List Char) : Option Url := do
  guard (s.length ≤ lengthLimit && !s.any isControl && !s.any Text.isHalf)
  let (scheme, s) := splitScheme s
  let (authority, s) :=
    match s with
    | '/' :: '/' :: s => splitBefore ['/', '?', '#'] s
    | s => ([], s)
  let (path, s) := splitBefore ['?', '#'] s
  let (query, s) := splitMarked '?' ['#'] s
  let (fragment, _) := splitMarked '#' [] s
  let (user, host, port) := splitAuthority authority
  ofParts? scheme user host port path query fragment

/-- The address that a string denotes. -/
def ofString? (s : String) : Option Url := ofChars? s.toList

/-- A host in writing; groups between colons stand in brackets. -/
def hostText (host : List Char) : List Char :=
  if host.contains ':' then '[' :: host ++ [']'] else host

/-- A port in writing. -/
def portText (port : Option Int) : List Char := port.elim [] Text.intText

/-- What stands between the two slashes and the path. -/
def authority (u : Url) : List Char :=
  (if u.user = [] then [] else u.user ++ ['@']) ++ hostText u.host ++
    (if u.port = none then [] else ':' :: portText u.port)

/-- An address in writing. -/
def chars (u : Url) : List Char :=
  (if u.scheme = [] then [] else u.scheme ++ [':']) ++
    (if u.authority = [] then [] else '/' :: '/' :: u.authority) ++ u.path ++
    u.query.elim [] ('?' :: ·) ++ u.fragment.elim [] ('#' :: ·)

/-- An address as a string. -/
def text (u : Url) : String := String.ofList u.chars

/-- The address with another host. -/
def withHost? (u : Url) (host : List Char) : Option Url :=
  ofParts? u.scheme u.user (hostText host) (portText u.port) u.path u.query u.fragment

/-- The address with another fragment. -/
def withFragment? (u : Url) (fragment : List Char) : Option Url := do
  guard (!fragment.any isControl)
  ofParts? u.scheme u.user (hostText u.host) (portText u.port) u.path u.query (some fragment)

/-- Whether an address names a scheme and a host. -/
def isAbsolute (u : Url) : Bool := u.scheme ≠ [] && u.host ≠ []

/-- An address without scheme or host, as a path from the root. -/
def fromRoot (u : Url) : Url :=
  { path := '/' :: u.path.dropWhile (· == '/'), query := u.query }

end Url
end BuildRepair
