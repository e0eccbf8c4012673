import BuildRepair.Http.Reference

/-
  Whether an address can be reached. `probe` asks for it without its content, follows redirects
  and keeps a record of every request; only a final answer of success counts as reachable.
-/

namespace BuildRepair

/-- What comes back for one request. -/
inductive Reply where
  | answered (status : Int) (location : Option String)
  /-- No answer came. -/
  | failed
deriving DecidableEq, Repr

/-- What comes back for the address of each request, where it is always the same. -/
abbrev Network := String → Reply

/-- What comes back for each request, which may depend on the requests sent before it. -/
structure Web where
  reply : List String → String → Reply

instance : Coe Network Web := ⟨fun network => ⟨fun _ => network⟩⟩

namespace Reply

/-- Whether a status is one of success. -/
def isSuccess (status : Int) : Bool := 200 ≤ status && status < 300

/-- The statuses that send on to another address. -/
def redirects : List Int := [301, 302, 303, 307, 308]

end Reply

namespace Url

/-- The bytes of a text with its escapes read. -/
def unescapedBytes : List Char → List UInt8
  | [] => []
  | '%' :: a :: b :: s =>
    match Text.hexValue? a, Text.hexValue? b with
    | some high, some low => UInt8.ofNat (high * 16 + low) :: unescapedBytes s
    | _, _ => Text.Utf8.encode ['%'] ++ unescapedBytes (a :: b :: s)
  | c :: s => Text.Utf8.encode [c] ++ unescapedBytes s

/-- A text with its escapes read. -/
def unescape (s : List Char) : List Char := Text.Utf8.decodeLossy (unescapedBytes s)

/-- The address that a redirect from `current` leads to. The fragment goes along. -/
def redirected? (current : Url) (location : String) : Option Url := do
  let u ← ofString? location
  let u ← if u.scheme ≠ [] ∧ u.host = [] then u.withHost? current.host else some u
  let u ← if u.isAbsolute then some u else current.join? u
  let u ←
    match filled current.fragment, filled u.fragment with
    | some fragment, none => u.withFragment? (unescape fragment)
    | _, _ => some u
  guard (isReadableHost u.host)
  return u

/-- Whether an address answers with success within a number of requests, and the requests, after
others were sent. -/
def follow (web : Web) : Nat → List String → Url → Bool × List String
  | 0, _, _ => (false, [])
  | n + 1, sent, u =>
    -- an answer to an address without scheme is of no use
    match if u.scheme = [] then .failed else web.reply sent u.text with
    | .failed => (false, [u.text])
    | .answered status none => (Reply.isSuccess status, [u.text])
    | .answered status (some location) =>
      -- an answer with other characters in its location cannot be read
      if location.toList.any (0x80 ≤ ·.toNat) then (false, [u.text])
      else if Reply.redirects.contains status then
        match u.redirected? location with
        | none => (false, [u.text])
        | some v =>
          let (ok, requests) := follow web n (sent ++ [u.text]) v
          (ok, u.text :: requests)
      else (Reply.isSuccess status, [u.text])

/-- The most requests for one address: one, and one more for each of twenty redirects. -/
def requestLimit : Nat := 21

/-- An address as people write it, in full. -/
def fullText (address : String) : String :=
  if "http".toList.isPrefixOf address.toList then address else "https://" ++ address

/-- Whether an address as people write it can be reached, and the requests that were sent to find
out, after others. One that is no address fails before any request. -/
def probe (web : Web) (sent : List String) (address : String) : Bool × List String :=
  match ofString? (fullText address) with
  | none => (false, [])
  | some u =>
    if isReadableHost u.host then
      follow web requestLimit sent (if u.isAbsolute then u else u.fromRoot)
    else (false, [])

end Url
end BuildRepair
