import BuildRepair.Time.Timestamp

/-
  Reading dates and times of ISO 8601, in the extended and the basic format, by calendar date or
  by week. One character of any kind stands between date and time. A time may end in an offset
  from universal time, and then denotes the instant; seconds and fractions may be left out.
-/

namespace BuildRepair.Timestamp

/-- Why a text denotes no point in time. -/
inductive IsoFailure where
  /-- The text is no date, or its date or time does not exist. -/
  | malformed
  /-- The instant lies outside the years 1 to 9999. -/
  | outOfRange
deriving DecidableEq, Repr

/-- A number of exactly `n` digits, and the rest. -/
def digits? (n : Nat) (s : List Char) : Option (Nat × List Char) :=
  let taken := s.take n
  if taken.length = n ∧ taken.all Text.isAsciiDigit then
    some (Text.decimalValue taken, s.drop n)
  else none

/-- Where the character between date and time stands. -/
def separatorPlace (s : List Char) : Nat :=
  match s.drop 4 with
  | '-' :: 'W' :: _ :: _ :: '-' :: after =>
    match after with
    | _ :: c :: _ => if Text.isAsciiDigit c then 8 else 10
    | _ => 10
  | '-' :: 'W' :: _ => 8
  | '-' :: _ => 10
  | 'W' :: _ =>
    -- digits behind the week come in pairs unless one of them is the weekday
    let place := 7 + ((s.drop 7).takeWhile Text.isAsciiDigit).length
    if place < 9 then place else if place % 2 = 0 then 7 else 8
  | _ => 8

/-- The date of a week, with or without a weekday. -/
def weekDate (dashed : Bool) (year : Nat) (s : List Char) : Option Date := do
  let (week, s) ← digits? 2 s
  match s with
  | [] => Date.ofWeek? year week 1
  | c :: rest =>
    let s ← if dashed then (if c = '-' then some rest else none) else some s
    let (weekday, _) ← digits? 1 s
    Date.ofWeek? year week weekday

/-- The date that the characters before the separator denote. -/
def readDate (s : List Char) : Option Date := do
  let (year, s) ← digits? 4 s
  let dashed := s.head? == some '-'
  let s := if dashed then s.drop 1 else s
  match s with
  | 'W' :: s => weekDate dashed year s
  | s => do
    let (month, s) ← digits? 2 s
    let s ← if dashed then (match s with | '-' :: s => some s | _ => none) else some s
    let (day, _) ← digits? 2 s
    return ⟨year, month, day⟩

/-- A time of day or an offset as read, and whether anything was left unread. -/
structure Clock where
  hour : Nat
  minute : Nat
  second : Nat
  micro : Nat
  leftover : Bool

/-- The microseconds of a fraction of a second; digits after the sixth do not count. -/
def readFraction (follows : Bool) (hour minute second : Nat) (s : List Char) : Option Clock :=
  let taken := s.take 6
  if taken.all Text.isAsciiDigit then
    let rest := (s.drop 6).dropWhile Text.isAsciiDigit
    let padded := taken ++ List.replicate (6 - taken.length) '0'
    some ⟨hour, minute, second, Text.decimalValue padded, follows || !rest.isEmpty⟩
  else none

/-- How a time goes on after two digits. -/
inductive AfterDigits where
  | done (leftover : Bool)
  | part (s : List Char)
  | fraction (s : List Char)
  | malformed

/-- Decides how a time goes on. A single ASCII character at the end is left unread. -/
def afterDigits (follows coloned : Bool) : List Char → AfterDigits
  | [] => .done follows
  | [c] => if c.toNat < 0x80 then .done true else .malformed
  | c :: d :: s =>
    if coloned && c == ':' then .part (d :: s)
    else if c == '.' || c == ',' then .fraction (d :: s)
    else if coloned then .malformed
    else .part (c :: d :: s)

/-- Hours, then perhaps minutes, seconds and a fraction; `follows` tells whether an offset comes
after these characters. Colons stand between all parts or none. -/
def readClock (follows : Bool) (s : List Char) : Option Clock := do
  let (hour, s) ← digits? 2 s
  let coloned := s.head? == some ':'
  match afterDigits follows coloned s with
  | .done leftover => some ⟨hour, 0, 0, 0, leftover⟩
  | .malformed => none
  | .fraction s => readFraction follows hour 0 0 s
  | .part s => do
    let (minute, s) ← digits? 2 s
    match afterDigits follows coloned s with
    | .done leftover => some ⟨hour, minute, 0, 0, leftover⟩
    | .malformed => none
    | .fraction s => readFraction follows hour minute 0 s
    | .part s => do
      let (second, s) ← digits? 2 s
      match afterDigits follows coloned s with
      | .done leftover => some ⟨hour, minute, second, 0, leftover⟩
      | .malformed => none
      | .fraction s => readFraction follows hour minute second s
      | .part s => readFraction follows hour minute second s

/-- Characters that begin an offset. -/
def beginsOffset (c : Char) : Bool := c == '+' || c == '-' || c == 'Z'

/-- The microseconds of an offset, which is less than a day. An offset of less than a second
counts as none. -/
def readOffset (s : List Char) : Option Int :=
  match s with
  | ['Z'] => some 0
  | 'Z' :: _ => none
  | sign :: s => do
    let clock ← readClock false s
    let seconds := (clock.hour * 60 + clock.minute) * 60 + clock.second
    let size := if seconds = 0 then 0 else seconds * 1000000 + clock.micro
    if clock.leftover ∨ dayLength ≤ size then none
    else some (if sign = '-' then -(size : Int) else size)
  | [] => none

/-- The time that the characters after the separator denote, with its offset if there is one. -/
def readTime (s : List Char) : Option (Clock × Option Int) := do
  let time := s.takeWhile (!beginsOffset ·)
  match s.dropWhile (!beginsOffset ·) with
  | [] =>
    let clock ← readClock false time
    if clock.leftover then none else some (clock, none)
  | after => do
    let clock ← readClock true time
    let offset ← readOffset after
    some (clock, some offset)

/-- The point that a text denotes, with its offset if there is one. -/
def readLocal (s : List Char) : Option (Timestamp × Option Int) := do
  let place := separatorPlace s
  let date ← readDate (s.take place)
  match s.drop place with
  | [] => do
    let t ← of? date 0 0 0 0
    return (t, none)
  | _ :: time => do
    let (clock, offset) ← readTime time
    let t ← of? date clock.hour clock.minute clock.second clock.micro
    return (t, offset)

/-- The mark of universal time as an offset. -/
def spellOutZulu (s : List Char) : List Char :=
  s.flatMap fun c => if c = 'Z' then ['+', '0', '0', ':', '0', '0'] else [c]

/-- The point in universal time that a text denotes; without an offset it is taken as it stands. -/
def read (text : String) : Except IsoFailure Timestamp :=
  match readLocal (spellOutZulu text.toList) with
  | none => .error .malformed
  | some (t, none) => .ok t
  | some (t, some offset) =>
    match t.minus? offset with
    | some u => .ok u
    | none => .error .outOfRange

end BuildRepair.Timestamp
