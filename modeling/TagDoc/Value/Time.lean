import TagDoc.Text.Basic

/-!
# Dates and times

Calendar dates from year 1 to year 9999, and moments: a date with a time of day and, if it is known, the
distance from universal time.

## Main definitions

* `Date`, `Moment`
* `Date.fault?`, `Moment.fault?`: the first field that is out of its range
* `Date.iso`, `Moment.iso`: the text in ISO 8601
-/

namespace TagDoc

/-- A day of the calendar. -/
structure Date where
  year : Nat
  month : Nat
  day : Nat
  deriving DecidableEq, Repr, Inhabited

/-- A day with a time of day. The offset counts the minutes by which local time is ahead. -/
structure Moment where
  date : Date
  hour : Nat
  minute : Nat
  second : Nat
  microsecond : Nat
  offset : Option Int
  deriving DecidableEq, Repr, Inhabited

/-- What can be out of range in a date or a time. -/
inductive TimeFault where
  | year (value : Nat)
  | month
  | day
  | hour
  | minute
  | second
  | offset (minutes : Int)
  deriving DecidableEq, Repr

/-- Every fourth year is a leap year, except the full centuries that 400 does not divide. -/
def isLeapYear (year : Nat) : Bool := year % 4 == 0 && (year % 100 != 0 || year % 400 == 0)

/-- The number of days of a month. -/
def daysOfMonth (year month : Nat) : Nat :=
  if month = 2 then if isLeapYear year then 29 else 28
  else if month ∈ [4, 6, 9, 11] then 30 else 31

namespace Date

/-- The first field of a date that is out of range. -/
def fault? (d : Date) : Option TimeFault :=
  if d.year = 0 ∨ 9999 < d.year then some (.year d.year)
  else if d.month = 0 ∨ 12 < d.month then some .month
  else if d.day = 0 ∨ daysOfMonth d.year d.month < d.day then some .day
  else none

/-- The number of days before a date since the first day of year 1. -/
def ordinal (d : Date) : Nat :=
  let before := d.year - 1
  let months := (List.range (d.month - 1)).foldl (fun n m => n + daysOfMonth d.year (m + 1)) 0
  before * 365 + before / 4 - before / 100 + before / 400 + months + (d.day - 1)

end Date

/-- A number in decimal digits, with zeros in front up to a width. -/
def padded (width n : Nat) : Text :=
  let digits := Text.ofNat n
  List.replicate (width - digits.length) '0' ++ digits

/-- A date as year, month and day. -/
def Date.iso (d : Date) : Text :=
  padded 4 d.year ++ '-' :: padded 2 d.month ++ '-' :: padded 2 d.day

namespace Moment

/-- The first field of a moment that is out of range; an offset must be less than a day. -/
def fault? (m : Moment) : Option TimeFault :=
  (m.offset.bind fun o => if 1440 ≤ o.natAbs then some (.offset o) else none)
    <|> m.date.fault?
    <|> (if 23 < m.hour then some .hour
      else if 59 < m.minute then some .minute
      else if 59 < m.second then some .second
      else none)

/-- The minutes of a day after midnight, and the seconds and their parts, in microseconds. -/
def microsecondOfDay (m : Moment) : Nat :=
  ((m.hour * 60 + m.minute) * 60 + m.second) * 1000000 + m.microsecond

/-- The microseconds since the start of year 1, in universal time where the offset is known. -/
def instant (m : Moment) : Int :=
  (m.date.ordinal : Int) * 86400000000 + m.microsecondOfDay - m.offset.getD 0 * 60000000

/-- Two moments are the same if neither has an offset and they show the same time, or both have one and they
are the same instant. -/
def same (m n : Moment) : Bool := m.offset.isSome == n.offset.isSome && m.instant == n.instant

/-- An offset as a sign, hours and minutes. -/
def writeOffset (minutes : Int) : Text :=
  (if minutes < 0 then '-' else '+') :: padded 2 (minutes.natAbs / 60) ++ ':' :: padded 2 (minutes.natAbs % 60)

/-- The time of day; parts of a second are written as microseconds, or not at all. -/
def clock (m : Moment) : Text :=
  padded 2 m.hour ++ ':' :: padded 2 m.minute ++ ':' :: padded 2 m.second ++
    if m.microsecond = 0 then [] else '.' :: padded 6 m.microsecond

/-- A moment as date and time of day with `mark` between them, and its offset. -/
def write (mark : Char) (m : Moment) : Text :=
  m.date.iso ++ mark :: m.clock ++ (m.offset.map writeOffset).getD []

/-- A moment in ISO 8601. -/
def iso (m : Moment) : Text := m.write 'T'

/-- A moment in ISO 8601, with the letter Z for universal time. -/
def isoZulu (m : Moment) : Text :=
  if m.offset = some 0 then m.date.iso ++ 'T' :: m.clock ++ ['Z'] else m.iso

end Moment

end TagDoc
