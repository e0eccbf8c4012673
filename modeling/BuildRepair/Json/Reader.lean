import BuildRepair.Json.Value
import BuildRepair.Text.Half
import BuildRepair.Text.Number

/-
  Reading JSON. Besides the standard grammar, `NaN`, `Infinity` and `-Infinity` are numbers. Of
  several fields with one name the last value counts, at the first place. `readWith` asks for the
  value of each object when its closing brace is read, so a document may give a meaning to some
  objects or refuse them. A failure names its cause and where in the text it arose.
-/

namespace BuildRepair.Json

/-- Why a text is not JSON. -/
inductive SyntaxCause where
  | valueExpected
  | nameExpected
  | colonExpected
  | commaExpected
  | unterminatedString
  | controlCharacter
  | unknownEscape
  | malformedUnicodeEscape
  | extraData
  | byteOrderMark
deriving DecidableEq, Repr

/-- A failure inside a text, with how many characters remain from where it arose. -/
inductive Stop (ε : Type) where
  | malformed (cause : SyntaxCause) (remaining : Nat)
  | integerTooLong (digits : Nat)
  /-- An object was refused. -/
  | refused (e : ε)
deriving DecidableEq, Repr

/-- What a reader gives: a value and the rest of the text. -/
abbrev Read (ε α : Type) := Except (Stop ε) (α × List Char)

variable {ε : Type}

/-- Stop at the first of the remaining characters. -/
def failAt {α : Type} (cause : SyntaxCause) (s : List Char) : Except (Stop ε) α :=
  .error (.malformed cause s.length)

/-- The four characters between tokens. -/
def isSpace (c : Char) : Bool := c == ' ' || c == '\t' || c == '\n' || c == '\r'

/-- The text from the next token on. -/
def skipSpace (s : List Char) : List Char := s.dropWhile isSpace

/-- The character that a letter after a backslash stands for. -/
def simpleEscape? (c : Char) : Option Char :=
  if c = '"' ∨ c = '\\' ∨ c = '/' then some c
  else if c = 'b' then some (Char.ofNat 0x8)
  else if c = 'f' then some (Char.ofNat 0xC)
  else if c = 'n' then some '\n'
  else if c = 'r' then some '\r'
  else if c = 't' then some '\t'
  else none

/-- The number that four hexadecimal digits denote. -/
def unit? (a b c d : Char) : Option Nat := do
  let a ← Text.hexValue? a
  let b ← Text.hexValue? b
  let c ← Text.hexValue? c
  let d ← Text.hexValue? d
  return ((a * 16 + b) * 16 + c) * 16 + d

/-- Characters in front of what a reader gives. -/
def prepend (cs : List Char) : Read ε (List Char) → Read ε (List Char)
  | .ok (rest, s) => .ok (cs ++ rest, s)
  | .error e => .error e

/-- What a first unit without its second one leaves behind. -/
def alone : Option Nat → List Char
  | none => []
  | some n => [Text.unitChar n]

/--
The characters of a string up to its closing quote; `opening` starts at its opening quote, and
`first` is the first unit of a pair that was just read. An escape by number needs four digits and
a character after them.
-/
def stringBody (opening : List Char) (first : Option Nat) : List Char → Read ε (List Char)
  | [] => failAt .unterminatedString opening
  | '"' :: s => .ok (alone first, s)
  | '\\' :: [] => failAt .unterminatedString opening
  | '\\' :: 'u' :: a :: b :: c :: d :: s =>
    match s.isEmpty, unit? a b c d with
    | false, some n =>
      match first, Text.isLowUnit n with
      | some m, true => prepend [Text.joinHalves m n] (stringBody opening none s)
      | _, _ =>
        if Text.isHighUnit n then prepend (alone first) (stringBody opening (some n) s)
        else prepend (alone first ++ [Text.unitChar n]) (stringBody opening none s)
    | _, _ => failAt .malformedUnicodeEscape ('u' :: a :: b :: c :: d :: s)
  | '\\' :: 'u' :: s => failAt .malformedUnicodeEscape ('u' :: s)
  | '\\' :: c :: s =>
    match simpleEscape? c with
    | some d => prepend (alone first ++ [d]) (stringBody opening none s)
    | none => failAt .unknownEscape ('\\' :: c :: s)
  | c :: s =>
    if c.toNat < 0x20 then failAt .controlCharacter (c :: s)
    else prepend (alone first ++ [c]) (stringBody opening none s)

/-- A string from after its opening quote on. -/
def readString (s : List Char) : Read ε String :=
  match stringBody ('"' :: s) none s with
  | .ok (cs, r) => .ok (String.ofList cs, r)
  | .error e => .error e

/-- The digits after a point, and the rest. -/
def fraction (s : List Char) : List Char × List Char :=
  match s with
  | '.' :: r =>
    match r.takeWhile Text.isAsciiDigit with
    | [] => ([], s)
    | digits => (digits, r.dropWhile Text.isAsciiDigit)
  | _ => ([], s)

/-- The number after an exponent mark, and the rest. -/
def exponent? (s : List Char) : Option (Int × List Char) :=
  match s with
  | e :: r =>
    if e = 'e' ∨ e = 'E' then
      let signed : Bool × List Char :=
        match r with
        | '-' :: r => (true, r)
        | '+' :: r => (false, r)
        | r => (false, r)
      match signed.2.takeWhile Text.isAsciiDigit with
      | [] => none
      | digits =>
        let n : Int := Text.decimalValue digits
        some (if signed.1 then -n else n, signed.2.dropWhile Text.isAsciiDigit)
    else none
  | [] => none

/-- The most digits that an integer may have. -/
def integerDigitLimit : Nat := 4300

/-- A number whose integer digits have been read. -/
def readNumberRest (negative : Bool) (digits s : List Char) : Read ε Json :=
  let f := fraction s
  match f.1, exponent? f.2 with
  | [], none =>
    if integerDigitLimit < digits.length then .error (.integerTooLong digits.length)
    else
      let n : Int := Text.decimalValue digits
      .ok (.int (if negative then -n else n), f.2)
  | fractionDigits, e =>
    let e := e.getD (0, f.2)
    let value := Binary64.ofDecimal negative (Text.decimalValue (digits ++ fractionDigits))
      (e.1 - fractionDigits.length)
    .ok (.real value, e.2)

/-- A number; `s` is where a value was expected. -/
def readNumber (s : List Char) : Read ε Json :=
  let signed : Bool × List Char :=
    match s with
    | '-' :: r => (true, r)
    | r => (false, r)
  match signed.2 with
  | '0' :: r => readNumberRest signed.1 ['0'] r
  | c :: r =>
    if Text.isAsciiDigit c then
      readNumberRest signed.1 (c :: r.takeWhile Text.isAsciiDigit) (r.dropWhile Text.isAsciiDigit)
    else failAt .valueExpected s
  | [] => failAt .valueExpected s

/-- A constant or a number. -/
def readAtom (s : List Char) : Read ε Json :=
  match s with
  | 'n' :: 'u' :: 'l' :: 'l' :: r => .ok (.null, r)
  | 't' :: 'r' :: 'u' :: 'e' :: r => .ok (.bool true, r)
  | 'f' :: 'a' :: 'l' :: 's' :: 'e' :: r => .ok (.bool false, r)
  | 'N' :: 'a' :: 'N' :: r => .ok (.real .nan, r)
  | 'I' :: 'n' :: 'f' :: 'i' :: 'n' :: 'i' :: 't' :: 'y' :: r => .ok (.real (.infinite false), r)
  | '-' :: 'I' :: 'n' :: 'f' :: 'i' :: 'n' :: 'i' :: 't' :: 'y' :: r =>
    .ok (.real (.infinite true), r)
  | s => readNumber s

/-- The value of an object once its fields are read. -/
def closed (close : Fields → Except ε Json) : Read ε Fields → Read ε Json
  | .error e => .error e
  | .ok (fields, s) =>
    match close fields with
    | .ok j => .ok (j, s)
    | .error e => .error (.refused e)

mutual
/-- A value; `fuel` bounds the nesting and is never spent before the text. -/
def readValue (close : Fields → Except ε Json) : Nat → List Char → Read ε Json
  | 0, s => failAt .valueExpected s
  | _ + 1, '"' :: s =>
    match readString s with
    | .ok (t, r) => .ok (.str t, r)
    | .error e => .error e
  | fuel + 1, '[' :: s =>
    match skipSpace s with
    | ']' :: r => .ok (.arr [], r)
    | r =>
      match readItems close fuel r with
      | .ok (items, r) => .ok (.arr items, r)
      | .error e => .error e
  | fuel + 1, '\x7b' :: s =>
    match skipSpace s with
    | '\x7d' :: r => closed close (.ok ([], r))
    | r => closed close (readFields close fuel [] r)
  | _ + 1, s => readAtom s
/-- The items of an array up to its closing bracket. -/
def readItems (close : Fields → Except ε Json) : Nat → List Char → Read ε (List Json)
  | 0, s => failAt .valueExpected s
  | fuel + 1, s =>
    match readValue close fuel s with
    | .error e => .error e
    | .ok (x, s) =>
      match skipSpace s with
      | ']' :: r => .ok ([x], r)
      | ',' :: r =>
        match readItems close fuel (skipSpace r) with
        | .ok (xs, r) => .ok (x :: xs, r)
        | .error e => .error e
      | r => failAt .commaExpected r
/-- The fields of an object up to its closing brace, after the fields read so far. -/
def readFields (close : Fields → Except ε Json) : Nat → Fields → List Char → Read ε Fields
  | 0, _, s => failAt .nameExpected s
  | fuel + 1, done, '"' :: s =>
    match readString s with
    | .error e => .error e
    | .ok (name, s) =>
      match skipSpace s with
      | ':' :: s =>
        match readValue close fuel (skipSpace s) with
        | .error e => .error e
        | .ok (x, s) =>
          match skipSpace s with
          | '\x7d' :: r => .ok (Assoc.put name x done, r)
          | ',' :: r => readFields close fuel (Assoc.put name x done) (skipSpace r)
          | r => failAt .commaExpected r
      | r => failAt .colonExpected r
  | _ + 1, _, s => failAt .nameExpected s
end

/-- A whole text as one value. -/
def readText (close : Fields → Except ε Json) (s : List Char) : Except (Stop ε) Json :=
  if s.head? = some (Char.ofNat 0xFEFF) then failAt .byteOrderMark s
  else
    match readValue close (2 * s.length + 2) (skipSpace s) with
    | .error e => .error e
    | .ok (j, s) =>
      match skipSpace s with
      | [] => .ok j
      | r => failAt .extraData r

/-- A place in a text: its line and column from one, its offset from zero. -/
structure Place where
  line : Nat
  column : Nat
  offset : Nat
deriving DecidableEq, Repr

/-- The place that a number of characters leads to. -/
def Place.after (offset : Nat) (s : List Char) : Place :=
  let before := s.take offset
  let tail := before.reverse.takeWhile (· ≠ '\n')
  ⟨before.count '\n' + 1, tail.length + 1, offset⟩

/-- Why a text cannot be read as JSON, or a value cannot be written. -/
inductive ReadError where
  | malformed (cause : SyntaxCause) (place : Place)
  /-- An integer has too many digits; those of one that is read are counted. -/
  | integerTooLong (digits : Option Nat)
deriving DecidableEq, Repr

/-- Reads a text as JSON; `close` gives the value of each object, and `wrap` the failure for a text
that is no JSON. -/
def readWith (close : Fields → Except ε Json) (wrap : ReadError → ε) (text : String) :
    Except ε Json :=
  let s := text.toList
  match readText close s with
  | .ok j => .ok j
  | .error (.refused e) => .error e
  | .error (.integerTooLong n) => .error (wrap (.integerTooLong (some n)))
  | .error (.malformed cause remaining) =>
    .error (wrap (.malformed cause (Place.after (s.length - remaining) s)))

/-- Reads a text as JSON in which each object stands for itself. -/
def read (text : String) : Except ReadError Json :=
  readWith (fun fields => .ok (.obj fields)) id text

/-- A cause in words. -/
def SyntaxCause.message : SyntaxCause → String
  | .valueExpected => "Expecting value"
  | .nameExpected => "Expecting property name enclosed in double quotes"
  | .colonExpected => "Expecting ':' delimiter"
  | .commaExpected => "Expecting ',' delimiter"
  | .unterminatedString => "Unterminated string starting at"
  | .controlCharacter => "Invalid control character at"
  | .unknownEscape => "Invalid \\escape"
  | .malformedUnicodeEscape => "Invalid \\uXXXX escape"
  | .extraData => "Extra data"
  | .byteOrderMark => "Unexpected UTF-8 BOM (decode using utf-8-sig)"

/-- An error in words, with its place. -/
def ReadError.message : ReadError → String
  | .malformed cause place =>
    cause.message ++ ": line " ++ toString place.line ++ " column " ++ toString place.column ++
      " (char " ++ toString place.offset ++ ")"
  | .integerTooLong digits =>
    "Exceeds the limit (" ++ toString integerDigitLimit ++
      " digits) for integer string conversion" ++
      (digits.elim "" fun n => ": value has " ++ toString n ++ " digits") ++
      "; use sys.set_int_max_str_digits() to increase the limit"

end BuildRepair.Json
