/-
# The device

A session deals with its device through shell commands.  Every command is issued for a purpose,
so that a run can be read as a list of purposes with their answers, whatever the texts are.

* `ShellCall` is a command with its purpose and the time it may take;
* `ShellAnswer` is the result of the command, or the fault that kept it from running.
-/
import DeviceSampling.Dialog
import DeviceSampling.Text.Blank

namespace DeviceSampling

/-- What a command is issued for. -/
inductive Purpose where
  /-- To see whether the sampler runs. -/
  | runningCheck
  /-- To tell the sampler to end. -/
  | interrupt
  /-- To start the sampler. -/
  | start
  /-- To make the directory of a destination. -/
  | makeDirectory
  /-- To move the record to its destination. -/
  | move
  /-- To write a report from a record. -/
  | report
  /-- To read a report. -/
  | readReport
  /-- To look up the ids of a process. -/
  | lookUp
  deriving DecidableEq, Repr

/-- A command for the device.  Without a time limit the device's own holds. -/
structure ShellCall where
  purpose : Purpose
  command : String
  timeout : Option Binary64 := none
  deriving DecidableEq

/-- What a command left: its output, its error output and its exit code. -/
structure ShellResult where
  output : String := ""
  errors : String := ""
  code : Int := 0
  deriving DecidableEq, Repr

namespace ShellResult

/-- Whether the command succeeded. -/
def ok (r : ShellResult) : Bool := r.code = 0

/-- All that the command printed. -/
def printed (r : ShellResult) : String := r.output ++ r.errors

end ShellResult

/-- The answer to a command: a result, or a fault that the device or its transport raises.  An
interruption by the user is none of these. -/
abbrev ShellAnswer (_ : ShellCall) : Type := Except Fault ShellResult

/-- A dialogue with a device. -/
abbrev Session (α : Type) : Type := Dialog ShellCall ShellAnswer α

namespace Session

/-- Issues a command without a time limit of its own. -/
def issue (purpose : Purpose) (command : String) : Session (Except Fault ShellResult) :=
  Dialog.ask ⟨purpose, command, none⟩

/-- Writes a log record of the session. -/
def say (severity : Severity) (message : String) : Session Unit :=
  Dialog.say severity .session message

end Session
end DeviceSampling
