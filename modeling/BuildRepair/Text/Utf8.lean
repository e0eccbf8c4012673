import BuildRepair.Text.Half
import BuildRepair.Text.Number

/-
  UTF-8. `decode` stops at the first bytes that no character is written with and says which and
  why; `decodeLossy` puts the replacement character in their place and goes on. A half of a
  character has no bytes, and `encode?` stops at the first one.
-/

namespace BuildRepair.Text.Utf8

/-- Why bytes begin no character. -/
inductive Reason where
  | invalidStart
  | invalidContinuation
  | unexpectedEnd
deriving DecidableEq, Repr

/-- What stands at the start of some bytes: a character and how many bytes follow its first one,
or how many bytes belong to no character. -/
inductive Next where
  | char (c : Char) (more : Nat)
  | bad (length : Nat) (reason : Reason)

/-- Bytes that may follow a first byte. -/
def isTail (b : UInt8) : Bool := 0x80 ≤ b && b < 0xC0

/-- The low six bits of a following byte. -/
def tailBits (b : UInt8) : Nat := b.toNat - 0x80

/-- Whether `b` may follow the first byte `a` of three or four: overlong forms, surrogates and
values above U+10FFFF are ruled out here. -/
def isSecond (a b : UInt8) : Bool :=
  isTail b && (a != 0xE0 || 0xA0 ≤ b) && (a != 0xED || b < 0xA0) && (a != 0xF0 || 0x90 ≤ b) &&
    (a != 0xF4 || b < 0x90)

/-- The character that starts with the byte `a`. -/
def next (a : UInt8) (rest : List UInt8) : Next :=
  if a < 0x80 then .char (Char.ofNat a.toNat) 0
  else if a < 0xC2 ∨ 0xF5 ≤ a then .bad 1 .invalidStart
  else if a < 0xE0 then
    match rest with
    | [] => .bad 1 .unexpectedEnd
    | b :: _ =>
      if isTail b then .char (Char.ofNat ((a.toNat - 0xC0) * 0x40 + tailBits b)) 1
      else .bad 1 .invalidContinuation
  else
    match rest with
    | [] => .bad 1 .unexpectedEnd
    | b :: rest =>
      if isSecond a b then
        match rest with
        | [] => .bad 2 .unexpectedEnd
        | c :: rest =>
          if isTail c then
            if a < 0xF0 then
              .char (Char.ofNat (((a.toNat - 0xE0) * 0x40 + tailBits b) * 0x40 + tailBits c)) 2
            else
              match rest with
              | [] => .bad 3 .unexpectedEnd
              | d :: _ =>
                if isTail d then
                  .char (Char.ofNat ((((a.toNat - 0xF0) * 0x40 + tailBits b) * 0x40 + tailBits c)
                    * 0x40 + tailBits d)) 3
                else .bad 3 .invalidContinuation
          else .bad 2 .invalidContinuation
      else .bad 1 .invalidContinuation

/-- Bytes that are no text: where they start, how many they are, the first of them and why. -/
structure Invalid where
  start : Nat
  length : Nat
  byte : UInt8
  reason : Reason
deriving DecidableEq, Repr

/-- Decodes from a position on, after `skip` bytes of a character already read. -/
def decodeFrom (position skip : Nat) : List UInt8 → Except Invalid (List Char)
  | [] => .ok []
  | a :: rest =>
    match skip with
    | skip + 1 => decodeFrom (position + 1) skip rest
    | 0 =>
      match next a rest with
      | .char c more =>
        match decodeFrom (position + 1) more rest with
        | .ok cs => .ok (c :: cs)
        | .error e => .error e
      | .bad length reason => .error ⟨position, length, a, reason⟩

/-- The text that bytes are, or the first place where they are none. -/
def decode (bytes : List UInt8) : Except Invalid (List Char) := decodeFrom 0 0 bytes

/-- Decodes with a replacement character for bytes that begin no character. -/
def decodeLossyFrom (skip : Nat) : List UInt8 → List Char
  | [] => []
  | a :: rest =>
    match skip with
    | skip + 1 => decodeLossyFrom skip rest
    | 0 =>
      match next a rest with
      | .char c more => c :: decodeLossyFrom more rest
      | .bad length _ => Char.ofNat 0xFFFD :: decodeLossyFrom (length - 1) rest

/-- The text of bytes, with a replacement character for those that are none. -/
def decodeLossy (bytes : List UInt8) : List Char := decodeLossyFrom 0 bytes

/-- The bytes of a text without halves. -/
def encode (s : List Char) : List UInt8 := s.flatMap String.utf8EncodeChar

/-- Halves that have no bytes: where they start, how many there are, and the first of them. -/
structure Unencodable where
  start : Nat
  length : Nat
  half : Nat
deriving DecidableEq, Repr

/-- The first halves in a text that `passes` does not let through, and those behind them. -/
def halvesIn? (passes : Nat → Bool) (s : List Char) : Option Unencodable :=
  let stops (c : Char) : Bool := (half? c).any (!passes ·)
  match s.dropWhile (!stops ·) with
  | [] => none
  | c :: rest =>
    some ⟨(s.takeWhile (!stops ·)).length, 1 + (rest.takeWhile isHalf).length, (half? c).getD 0⟩

/-- The bytes of a text, or the first halves that stand in it. -/
def encode? (s : List Char) : Except Unencodable (List UInt8) :=
  match halvesIn? (fun _ => false) s with
  | some e => .error e
  | none => .ok (encode s)

/-- A reason in words. -/
def Reason.message : Reason → String
  | .invalidStart => "invalid start byte"
  | .invalidContinuation => "invalid continuation byte"
  | .unexpectedEnd => "unexpected end of data"

/-- A failure in words: one byte is shown, several by their positions. -/
def Invalid.message (e : Invalid) : String :=
  let what :=
    if e.length = 1 then
      "byte 0x" ++ String.ofList (hexText 2 e.byte.toNat) ++ " in position " ++ toString e.start
    else "bytes in position " ++ toString e.start ++ "-" ++ toString (e.start + e.length - 1)
  "'utf-8' codec can't decode " ++ what ++ ": " ++ e.reason.message

/-- A failure in words: one half is shown, several by their positions. -/
def Unencodable.message (e : Unencodable) : String :=
  let what :=
    if e.length = 1 then
      "character '\\u" ++ String.ofList (hexText 4 e.half) ++ "' in position " ++ toString e.start
    else "characters in position " ++ toString e.start ++ "-" ++ toString (e.start + e.length - 1)
  "'utf-8' codec can't encode " ++ what ++ ": surrogates not allowed"

end BuildRepair.Text.Utf8
