/-
# Dates and times

A date is a day of the calendar with leap years in every fourth year but for the centuries that
400 does not divide.  A timestamp adds a time of day, and may know how far its clock is from
universal time.

* `Date.dayNumber` counts days, so that dates far apart can be compared;
* `Timestamp.sameMoment` is equality of timestamps: two clocks of different offsets may show the
  same moment, and a clock of unknown offset never shows that of a known one.
-/

namespace DeviceSampling

/-! ## 1. Dates -/

/-- A calendar date. -/
structure Date where
  year : Nat
  month : Nat
  day : Nat
  deriving DecidableEq, Repr

/-- Whether a year has a day more. -/
def isLeap (year : Nat) : Bool := year % 4 = 0 && (year % 100 ≠ 0 || year % 400 = 0)

/-- The number of days of a month. -/
def daysIn (year month : Nat) : Nat :=
  if month = 2 then (if isLeap year then 29 else 28)
  else if month ∈ [4, 6, 9, 11] then 30 else 31

/-- The number of days in the years before a year, counted from year 1. -/
def daysBefore (year : Nat) : Nat :=
  let n := year - 1
  n * 365 + n / 4 - n / 100 + n / 400

/-- The number of a day, where the first day of year 1 has number 1. -/
def Date.dayNumber (d : Date) : Nat :=
  (List.range (d.month - 1)).foldl (fun days m => days + daysIn d.year (m + 1))
    (daysBefore d.year) + d.day

/-! ## 2. Timestamps -/

/-- A date with a time of day and, where known, the offset from universal time in minutes. -/
structure Timestamp where
  date : Date
  hour : Nat
  minute : Nat
  second : Nat
  microsecond : Nat
  offset : Option Int
  deriving DecidableEq, Repr

/-- The millionths of a second since the clock of the timestamp showed the start of the
calendar. -/
def Timestamp.onClock (t : Timestamp) : Nat :=
  (((t.date.dayNumber * 24 + t.hour) * 60 + t.minute) * 60 + t.second) * 1000000 + t.microsecond

/-- Whether two timestamps are the same moment. -/
def Timestamp.sameMoment (t u : Timestamp) : Bool :=
  match t.offset, u.offset with
  | none, none => t = u
  | some m, some n => (t.onClock : Int) - m * 60000000 = u.onClock - n * 60000000
  | _, _ => false

end DeviceSampling
