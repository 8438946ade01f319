/-
# The lines of a report

A report is text for people.  A line with a colon and a space is a HEADER, its label in front
of them; a line without them but with a percent sign is a ROW of percentage, process id and
symbol; all other lines say nothing.  Of the headers two count: `Event` starts the figures of
an event and `Event count` gives its total.

* `ReportLine.read` tells what a line is;
* the rest of a row is its symbol, which may hold blanks.
-/
import DeviceSampling.Text.Blank

namespace DeviceSampling

open Text

/-! ## 1. Cutting a line -/

/-- What stands before and after the first occurrence of a separator. -/
def cutAt (separator : List Char) : List Char → Option (List Char × List Char)
  | [] => none
  | c :: rest =>
    if separator.isPrefixOf (c :: rest) then some ([], (c :: rest).drop separator.length)
    else (cutAt separator rest).map fun (before, after) => (c :: before, after)

/-- What stands before the first occurrence of a separator, or everything. -/
def upTo (separator cs : List Char) : List Char :=
  match cutAt separator cs with
  | some (before, _) => before
  | none => cs

/-- The first two words of a line and the rest of it, trimmed; none if nothing is left for the
rest. -/
def threeFields (cs : List Char) : Option (List Char × List Char × List Char) :=
  let (first, afterFirst) := nextWord cs
  let (second, afterSecond) := nextWord afterFirst
  let third := trim afterSecond
  if third.isEmpty then none else some (first, second, third)

/-! ## 2. Kinds of line -/

/-- A line of a report. -/
inductive ReportLine where
  /-- A header that starts the figures of an event. -/
  | event (name : String)
  /-- A header with the total of the event. -/
  | total (text : String)
  /-- A symbol's row, with the percentage as it stands. -/
  | row (percentage symbol : String)
  /-- A row with fewer than three fields. -/
  | shortRow
  /-- Any other line. -/
  | other
  deriving DecidableEq, Repr

namespace ReportLine

/-- The separator of a header's label and value. -/
def headerSeparator : List Char := [':', ' ']

/-- A header line, its label in front of the separator and a value after it; the value ends
where a further separator stands. -/
def ofHeader (label rest : List Char) : ReportLine :=
  let value := upTo headerSeparator rest
  if label = "Event".toList then .event (String.ofList (upTo [' '] value))
  else if label = "Event count".toList then .total (String.ofList (trim value))
  else .other

/-- What a line is. -/
def read (line : List Char) : ReportLine :=
  match cutAt headerSeparator line with
  | some (label, rest) => ofHeader label rest
  | none =>
    if line.contains '%' then
      match threeFields line with
      | some (percentage, _, symbol) => .row (String.ofList percentage) (String.ofList symbol)
      | none => .shortRow
    else .other

end ReportLine
end DeviceSampling
