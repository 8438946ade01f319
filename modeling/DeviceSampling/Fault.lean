/-
# Faults

What may end an operation without a result.  A fault that a device or its transport raises
carries the message it was raised with; the others are causes of this library, with their
wording in `Fault.message`.
-/
import DeviceSampling.Report.Parser

namespace DeviceSampling

/-- Why an operation has no result. -/
inductive Fault where
  /-- The device could not be reached, or refused a command. -/
  | unreachable (message : String)
  /-- Other faults that a device or its transport may raise. -/
  | runtime (message : String)
  | badValue (message : String)
  | os (message : String)
  | timedOut (message : String)
  /-- An integer stands where a double is needed, and is beyond the doubles. -/
  | integerTooLarge
  /-- A figure of a report is beyond the doubles. -/
  | report (overflow : ReportOverflow)
  /-- A directory was to be made where a file is. -/
  | fileExists (path : String)
  /-- A directory was to be made below a file. -/
  | notADirectory (path : String)
  /-- The user interrupted the run.  This comes of a sleep, and is no answer of a device or a process:
  what an interruption in the middle of a command would do is left out. -/
  | interrupted
  deriving DecidableEq, Repr

/-- The message of a fault. -/
def Fault.message : Fault → String
  | .unreachable m | .runtime m | .badValue m | .os m | .timedOut m => m
  | .integerTooLarge => "int too large to convert to float"
  | .report overflow => overflow.message
  | .fileExists path => "[Errno 17] File exists: " ++ Text.quote path
  | .notADirectory path => "[Errno 20] Not a directory: " ++ Text.quote path
  | .interrupted => ""

end DeviceSampling
