/-
# Reading a report

The metrics of one process are gathered line by line.  A total is written under its event's
key, a wanted symbol's share under the symbol's key, and a key that comes again is overwritten.
Reading stops at the first malformed line, and what was gathered before it is kept.  A figure
beyond the range of the doubles is no fault of a line: it ends the reading without a result.

* `ReportState.step` reads one line;
* `readLines` reads them in order, `parseReport` a whole text;
* `readLines_append`: reading goes on from the state that the lines before left.
-/
import DeviceSampling.Number.Numeral
import DeviceSampling.Report.Line
import DeviceSampling.Report.Metrics
import DeviceSampling.Report.Share
import DeviceSampling.Text.Line

namespace DeviceSampling

open Text

/-! ## 1. Results -/

/-- Why a line is malformed. -/
inductive LineFault where
  | missingField
  | total (fault : Numeral.IntegerFault)
  | percentage (fault : Numeral.DoubleFault)
  | shareNotANumber
  deriving DecidableEq, Repr

/-- The message of a line fault. -/
def LineFault.message : LineFault → String
  | .missingField => "list index out of range"
  | .total fault => fault.message
  | .percentage fault => fault.message
  | .shareNotANumber => ShareFault.notANumber.message

/-- The first malformed line of a report. -/
structure ReportFault where
  /-- The number of the line, from one. -/
  number : Nat
  line : String
  cause : LineFault
  deriving DecidableEq, Repr

/-- The message of a report fault: the place, the cause and the line itself. -/
def ReportFault.message (f : ReportFault) : String :=
  "line " ++ toString f.number ++ ": " ++ f.cause.message ++ " (" ++ quote f.line ++ ")"

/-- The metrics of a report, with the fault that ended the reading early, if any. -/
structure ParsedReport where
  metrics : Metrics
  fault : Option ReportFault := none
  deriving DecidableEq, Repr

/-- Whether the whole report was read. -/
def ParsedReport.complete (p : ParsedReport) : Bool := p.fault.isNone

/-- Why a reading has no result: a figure beyond the range of the doubles. -/
inductive ReportOverflow where
  | totalTooLarge
  | infiniteShare
  deriving DecidableEq, Repr

/-- The message of an overflow. -/
def ReportOverflow.message : ReportOverflow → String
  | .totalTooLarge => ShareFault.totalTooLarge.message
  | .infiniteShare => ShareFault.infinite.message

/-! ## 2. One line -/

/-- What the lines so far have told. -/
structure ReportState where
  /-- The event whose figures are being read. -/
  event : String := ""
  /-- The last total. -/
  total : Int := 0
  metrics : Metrics := {}
  deriving DecidableEq, Repr

/-- Why a line ends the reading. -/
inductive LineStop where
  | malformed (cause : LineFault)
  | overflow (cause : ReportOverflow)
  deriving DecidableEq, Repr

/-- The percentage of a row, without one percent sign at the end. -/
def withoutPercentSign (text : String) : String :=
  match text.toList.reverse with
  | '%' :: rest => String.ofList rest.reverse
  | _ => text

/-- The share that a row stands for. -/
def rowShare (percentage : String) (total : Int) : Except LineStop Int :=
  match Numeral.readDouble (withoutPercentSign percentage) with
  | .error fault => .error (.malformed (.percentage fault))
  | .ok p =>
    match share p total with
    | .ok n => .ok n
    | .error .notANumber => .error (.malformed .shareNotANumber)
    | .error .infinite => .error (.overflow .infiniteShare)
    | .error .totalTooLarge => .error (.overflow .totalTooLarge)

/-- The state after a line. -/
def ReportState.step (process : String) (wanted : List String) (s : ReportState) :
    ReportLine → Except LineStop ReportState
  | .event name => .ok { s with event := name }
  | .total text =>
    match Numeral.readInteger text with
    | .error fault => .error (.malformed (.total fault))
    | .ok n =>
      .ok { s with total := n, metrics := s.metrics.insert (metricKey s.event process none) text }
  | .row percentage symbol =>
    if wanted.contains symbol then
      (rowShare percentage s.total).map fun n =>
        { s with metrics := s.metrics.insert (metricKey s.event process (some symbol)) (toString n) }
    else .ok s
  | .shortRow => .error (.malformed .missingField)
  | .other => .ok s

/-! ## 3. All lines -/

/-- Reads the lines from a state on; the first of them has the number after `before`. -/
def readLines (process : String) (wanted : List String) (s : ReportState) (before : Nat) :
    List (List Char) → Except ReportOverflow ParsedReport
  | [] => .ok ⟨s.metrics, none⟩
  | line :: rest =>
    match s.step process wanted (ReportLine.read line) with
    | .ok s' => readLines process wanted s' (before + 1) rest
    | .error (.malformed cause) =>
      .ok ⟨s.metrics, some ⟨before + 1, String.ofList line, cause⟩⟩
    | .error (.overflow cause) => .error cause

/-- The metrics of a process in the text of a report, with the shares of the wanted symbols. -/
def parseReport (text process : String) (wanted : List String) :
    Except ReportOverflow ParsedReport :=
  readLines process wanted {} 0 (lines text.toList)

/-! ## 4. Reading in parts -/

/-- The state after lines that are all well formed. -/
def stateAfter? (process : String) (wanted : List String) (s : ReportState) :
    List (List Char) → Option ReportState
  | [] => some s
  | line :: rest =>
    match s.step process wanted (ReportLine.read line) with
    | .ok s' => stateAfter? process wanted s' rest
    | .error _ => none

/-- **Reading goes on** after well-formed lines from the state that they left. -/
theorem readLines_append {process : String} {wanted : List String} :
    ∀ {front : List (List Char)} {s s' : ReportState} {before : Nat} (rest : List (List Char)),
      stateAfter? process wanted s front = some s' →
        readLines process wanted s before (front ++ rest) =
          readLines process wanted s' (before + front.length) rest
  | [], s, s', before, rest, h => by
    obtain rfl : s = s' := by simpa [stateAfter?] using h
    simp
  | line :: front, s, s', before, rest, h => by
    simp only [stateAfter?] at h
    split at h
    · next s₁ hs =>
      simp only [List.cons_append, readLines, hs, List.length_cons]
      rw [readLines_append rest h, Nat.add_right_comm, Nat.add_assoc]
    · cases h

end DeviceSampling
