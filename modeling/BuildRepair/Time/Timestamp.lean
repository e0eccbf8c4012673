import BuildRepair.Text.Number

/-
  Points in time by calendar date and time of day, to the microsecond, in the years 1 to 9999.
  `minus` moves a point by less than a day in either direction.
-/

namespace BuildRepair

/-- Whether a year has a 29th of February. -/
def isLeapYear (year : Nat) : Bool := year % 4 == 0 && (year % 100 != 0 || year % 400 == 0)

/-- How many days a month has. -/
def daysInMonth (year month : Nat) : Nat :=
  if month = 2 then (if isLeapYear year then 29 else 28)
  else if month = 4 ∨ month = 6 ∨ month = 9 ∨ month = 11 then 30
  else 31

/-- A calendar date, which need not exist. -/
structure Date where
  year : Nat
  month : Nat
  day : Nat
deriving DecidableEq, Repr

namespace Date

/-- Whether a date exists in the years 1 to 9999. -/
def exists? (d : Date) : Bool :=
  1 ≤ d.year && d.year ≤ 9999 && 1 ≤ d.month && d.month ≤ 12 && 1 ≤ d.day &&
    d.day ≤ daysInMonth d.year d.month

/-- The day after. -/
def next (d : Date) : Date :=
  if d.day < daysInMonth d.year d.month then { d with day := d.day + 1 }
  else if d.month < 12 then ⟨d.year, d.month + 1, 1⟩
  else ⟨d.year + 1, 1, 1⟩

/-- The day before. -/
def previous (d : Date) : Date :=
  if 1 < d.day then { d with day := d.day - 1 }
  else if 1 < d.month then ⟨d.year, d.month - 1, daysInMonth d.year (d.month - 1)⟩
  else ⟨d.year - 1, 12, 31⟩

/-- The date some days later. -/
def later (d : Date) : Nat → Date
  | 0 => d
  | n + 1 => later d.next n

/-- The date some days earlier. -/
def earlier (d : Date) : Nat → Date
  | 0 => d
  | n + 1 => earlier d.previous n

/-- The weekday of the first of January: 0 is a Monday. -/
def firstWeekday (year : Nat) : Nat :=
  let y := year - 1
  (365 * y + y / 4 - y / 100 + y / 400) % 7

/-- Whether a year has a 53rd week: it begins on a Thursday, or on a Wednesday and is leap. -/
def hasLongWeekYear (year : Nat) : Bool :=
  firstWeekday year == 3 || (firstWeekday year == 2 && isLeapYear year)

/-- The date of a weekday, 1 being Monday, in a week of a year. Week 1 holds the first Thursday. -/
def ofWeek? (year week weekday : Nat) : Option Date :=
  let weeks := if hasLongWeekYear year then 53 else 52
  if 1 ≤ year ∧ 1 ≤ week ∧ week ≤ weeks ∧ 1 ≤ weekday ∧ weekday ≤ 7 then
    let first := firstWeekday year
    let newYear : Date := ⟨year, 1, 1⟩
    let days := 7 * (week - 1) + (weekday - 1)
    -- the Monday of week 1 stands before or after the first of January
    if first ≤ 3 then
      if first ≤ days then some (newYear.later (days - first))
      else some (newYear.earlier (first - days))
    else some (newYear.later (days + (7 - first)))
  else none

end Date

/-- A point in time. -/
structure Timestamp where
  date : Date
  hour : Nat
  minute : Nat
  second : Nat
  micro : Nat
  /-- The date exists and the time of day is one. -/
  valid : (date.exists? && hour < 24 && minute < 60 && second < 60 && micro < 1000000) = true
deriving DecidableEq, Repr

namespace Timestamp

/-- The point of a date and a time of day, if they exist. -/
def of? (date : Date) (hour minute second micro : Nat) : Option Timestamp :=
  if h : (date.exists? && hour < 24 && minute < 60 && second < 60 && micro < 1000000) = true then
    some ⟨date, hour, minute, second, micro, h⟩
  else none

/-- The first instant of 2024. -/
def default : Timestamp := ⟨⟨2024, 1, 1⟩, 0, 0, 0, 0, by decide⟩

instance : Inhabited Timestamp := ⟨default⟩

/-- The microseconds of a day. -/
def dayLength : Nat := 86400000000

/-- The microseconds since midnight. -/
def sinceMidnight (t : Timestamp) : Nat :=
  ((t.hour * 60 + t.minute) * 60 + t.second) * 1000000 + t.micro

/-- The point on a date at some microseconds since midnight. -/
def atTime? (date : Date) (micros : Nat) : Option Timestamp :=
  let seconds := micros / 1000000
  of? date (seconds / 3600) (seconds / 60 % 60) (seconds % 60) (micros % 1000000)

/-- The point some microseconds after the first instant of 1970. -/
def sinceEpoch? (micros : Nat) : Option Timestamp :=
  atTime? ((⟨1970, 1, 1⟩ : Date).later (micros / dayLength)) (micros % dayLength)

/-- The point that lies `offset` microseconds earlier, for an offset of less than a day; none
outside the years 1 to 9999. -/
def minus? (t : Timestamp) (offset : Int) : Option Timestamp :=
  let micros := (t.sinceMidnight : Int) - offset
  if micros < 0 then atTime? t.date.previous (micros + dayLength).toNat
  else if micros < dayLength then atTime? t.date micros.toNat
  else atTime? t.date.next (micros - dayLength).toNat

/-- The fields from the most significant one on. -/
def fields (t : Timestamp) : List Nat :=
  [t.date.year, t.date.month, t.date.day, t.hour, t.minute, t.second, t.micro]

/-- Whether a point lies before another one. -/
def before (a b : Timestamp) : Bool := decide (a.fields < b.fields)

/-- A point in writing, with a mark between the date and the time of day and with six decimals where
they are not all zero. -/
def textWith (mark : Char) (t : Timestamp) : String :=
  let two := Text.paddedText 2
  String.ofList (Text.paddedText 4 t.date.year ++
    '-' :: two t.date.month ++ '-' :: two t.date.day ++
    mark :: two t.hour ++ ':' :: two t.minute ++ ':' :: two t.second ++
    if t.micro = 0 then [] else '.' :: Text.paddedText 6 t.micro)

/-- A point in writing: `2024-01-31T09:30:00`. -/
def text (t : Timestamp) : String := t.textWith 'T'

/-- A point in writing with the mark of universal time. -/
def utcText (t : Timestamp) : String := t.text ++ "+00:00"

end Timestamp
end BuildRepair
