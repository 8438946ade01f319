/-
# Plain text of a value

A key is sorted by its plain text: that of a text is the text itself, dates and timestamps are
written in the international form, and all else as in messages.
-/
import DeviceSampling.Document.Value

namespace DeviceSampling.Value

/-- A date in the international form. -/
def isoDate (d : Date) : List Char :=
  paddedDecimal 4 d.year ++ '-' :: (paddedDecimal 2 d.month ++ '-' :: paddedDecimal 2 d.day)

/-- An offset from universal time, in hours and minutes. -/
def isoOffset (minutes : Int) : List Char :=
  (if minutes < 0 then '-' else '+') ::
    (paddedDecimal 2 (minutes.natAbs / 60) ++ ':' :: paddedDecimal 2 (minutes.natAbs % 60))

/-- A timestamp in the international form. -/
def isoTimestamp (t : Timestamp) : List Char :=
  isoDate t.date ++ ' ' :: (paddedDecimal 2 t.hour ++ ':' :: (paddedDecimal 2 t.minute ++
    ':' :: (paddedDecimal 2 t.second ++
      (if t.microsecond = 0 then [] else '.' :: paddedDecimal 6 t.microsecond) ++
      (match t.offset with
        | none => []
        | some m => isoOffset m))))

/-- The plain text of a value. -/
def plain : Value → String
  | text s => s
  | date d => String.ofList (isoDate d)
  | timestamp t => String.ofList (isoTimestamp t)
  | v => v.shown

end DeviceSampling.Value
