/-
# Dates and times in YAML

A date is three numbers, and may be followed by a time of day with a fraction and a zone.

* `WrittenTime.ofChars?` takes a text apart;
* `WrittenTime.toValue` checks the numbers and gives the date or the timestamp.
-/
import DeviceSampling.Document.Value

namespace DeviceSampling
namespace Yaml

/-! ## 1. Reading -/

/-- A zone: universal time, or an offset from it in minutes. -/
inductive Zone where
  | universal
  | offset (minutes : Int)
  deriving DecidableEq, Repr

/-- A time of day. -/
structure TimeOfDay where
  hour : Nat
  minute : Nat
  second : Nat
  /-- The digits after the point. -/
  fraction : List Char := []
  zone : Option Zone := none
  deriving DecidableEq, Repr

/-- A date as written, with a time of day if there is one. -/
structure WrittenTime where
  year : Nat
  month : Nat
  day : Nat
  time : Option TimeOfDay := none
  deriving DecidableEq, Repr

/-- A number of `least` to `most` digits at the front. -/
def takeNumber? (least most : Nat) (cs : List Char) : Option (Nat × List Char) :=
  let digits := (cs.take most).takeWhile Char.isDigit
  if digits.length < least then none
  else some (Numeral.ofDigits 10 digits, cs.drop digits.length)

/-- What follows a character at the front. -/
def takeMark? (c : Char) : List Char → Option (List Char)
  | [] => none
  | d :: rest => if d = c then some rest else none

/-- A zone that fills the text, with blanks in front of it. -/
def zoneOf? (cs : List Char) : Option Zone :=
  match cs.dropWhile fun c => c = ' ' || c = '\t' with
  | ['Z'] => some .universal
  | sign :: rest =>
    if sign ≠ '+' ∧ sign ≠ '-' then none
    else do
      let (hours, more) ← takeNumber? 1 2 rest
      let minutes ← match more with
        | [] => some 0
        | ':' :: ds => do
          let (n, []) ← takeNumber? 2 2 ds | none
          some n
        | _ => none
      let total : Int := hours * 60 + minutes
      return .offset (if sign = '-' then -total else total)
  | [] => none

/-- What follows the separator of date and time: the letter T, or blanks. -/
def takeSeparator? : List Char → Option (List Char)
  | 'T' :: rest => some rest
  | 't' :: rest => some rest
  | c :: rest =>
    if c = ' ' ∨ c = '\t' then some (rest.dropWhile fun c => c = ' ' || c = '\t') else none
  | [] => none

/-- A time of day that fills the text. -/
def timeOf? (cs : List Char) : Option TimeOfDay := do
  let (hour, cs) ← takeNumber? 1 2 cs
  let (minute, cs) ← takeNumber? 2 2 (← takeMark? ':' cs)
  let (second, cs) ← takeNumber? 2 2 (← takeMark? ':' cs)
  let (fraction, cs) := match cs with
    | '.' :: rest => (rest.takeWhile Char.isDigit, rest.dropWhile Char.isDigit)
    | _ => ([], cs)
  if cs.isEmpty then return ⟨hour, minute, second, fraction, none⟩
  else return ⟨hour, minute, second, fraction, some (← zoneOf? cs)⟩

/-- Takes a text apart that is a date, or a date and a time. -/
def WrittenTime.ofChars? (cs : List Char) : Option WrittenTime := do
  let (year, cs) ← takeNumber? 4 4 cs
  let (month, cs) ← takeNumber? 1 2 (← takeMark? '-' cs)
  let (day, cs) ← takeNumber? 1 2 (← takeMark? '-' cs)
  if cs.isEmpty then return ⟨year, month, day, none⟩
  else return ⟨year, month, day, some (← timeOf? (← takeSeparator? cs))⟩

/-! ## 2. Checking -/

/-- What is wrong with the numbers of a date or a time. -/
inductive CalendarFault where
  | year (n : Nat)
  | month
  | day
  | hour
  | minute
  | second
  /-- An offset of a day or more. -/
  | offset (minutes : Int)
  deriving DecidableEq, Repr

/-- The message of a calendar fault. -/
def CalendarFault.message : CalendarFault → String
  | .year n => "year " ++ toString n ++ " is out of range"
  | .month => "month must be in 1..12"
  | .day => "day is out of range for month"
  | .hour => "hour must be in 0..23"
  | .minute => "minute must be in 0..59"
  | .second => "second must be in 0..59"
  | .offset minutes =>
    "offset must be a timedelta strictly between -timedelta(hours=24) and " ++
      "timedelta(hours=24), not " ++ String.ofList (Value.spanChars minutes) ++ "."

/-- The date with checked numbers. -/
def WrittenTime.date (w : WrittenTime) : Except CalendarFault Date :=
  if w.year = 0 then .error (.year w.year)
  else if w.month = 0 ∨ 12 < w.month then .error .month
  else if w.day = 0 ∨ daysIn w.year w.month < w.day then .error .day
  else .ok ⟨w.year, w.month, w.day⟩

/-- The offset of a zone; a day or more is none. -/
def Zone.minutes : Zone → Except CalendarFault Int
  | .universal => .ok 0
  | .offset minutes => if minutes.natAbs < 1440 then .ok minutes else .error (.offset minutes)

/-- The millionths of a second that the digits after the point stand for; further digits do not
count. -/
def microseconds (fraction : List Char) : Nat :=
  Numeral.ofDigits 10 ((fraction ++ List.replicate 6 '0').take 6)

/-- The date or the timestamp. -/
def WrittenTime.toValue (w : WrittenTime) : Except CalendarFault Value :=
  match w.time with
  | none => do return .date (← w.date)
  | some t => do
    let offset ← match t.zone with
      | none => pure none
      | some z => some <$> z.minutes
    let date ← w.date
    if 23 < t.hour then throw .hour
    if 59 < t.minute then throw .minute
    if 59 < t.second then throw .second
    return .timestamp ⟨date, t.hour, t.minute, t.second, microseconds t.fraction, offset⟩

end Yaml
end DeviceSampling
