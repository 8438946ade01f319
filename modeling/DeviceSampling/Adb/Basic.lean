/-
# The bridge to a device

A device is reached through a program on the host, the bridge, which is run once for every
command.  This module says what is run and what is made of the ways in which it may end.

* `Adb` names the program, the device and a time limit;
* `Adb.limit` is the time limit of a command: one that is not positive means none;
* `Adb.conclude` turns the end of a process into a result or a fault: a process that ran out of
  time or could not be started, and a failed command whose success was asked for, all make the
  device unreachable.
-/
import DeviceSampling.Config.Basic
import DeviceSampling.Number.Shortest
import DeviceSampling.Session.Device

namespace DeviceSampling

/-! ## 1. Processes -/

/-- A process on the host: its command line and the time that it may take. -/
structure ProcessCall where
  /-- What it is run for, if for a command of a session. -/
  purpose : Option Purpose := none
  arguments : List String
  timeout : Option Binary64
  deriving DecidableEq

/-- What a process left.  An output may not have been captured. -/
structure ProcessResult where
  output : Option String := some ""
  errors : Option String := some ""
  code : Int := 0
  deriving DecidableEq, Repr

/-- How a process may end. -/
inductive ProcessOutcome where
  | exited (result : ProcessResult)
  /-- It ran out of time. -/
  | timedOut
  /-- The system did not start it, for a numbered reason. -/
  | refused (number : Int) (message : String)
  | failed (fault : Fault)
  deriving DecidableEq, Repr

/-! ## 2. The bridge -/

/-- A bridge. -/
structure Adb where
  path : String := "adb"
  serial : Option String := none
  timeout : Option Quantity := some (.double (.ofNat 30))
  deriving DecidableEq

/-- The result of a command of the bridge. -/
structure AdbResult where
  arguments : List String
  output : Option String
  errors : Option String
  code : Int
  deriving DecidableEq, Repr

namespace AdbResult

/-- Whether the command succeeded. -/
def ok (r : AdbResult) : Bool := r.code = 0

/-- All that the command printed. -/
def printed (r : AdbResult) : String := r.output.getD "" ++ r.errors.getD ""

/-- The result as that of a command on the device. -/
def toShell (r : AdbResult) : ShellResult := ⟨r.output.getD "", r.errors.getD "", r.code⟩

end AdbResult

namespace Adb

/-- The command line up to the command. -/
def base (a : Adb) : List String :=
  match a.serial with
  | none => [a.path]
  | some serial => if serial.isEmpty then [a.path] else [a.path, "-s", serial]

/-- The time limit of a command: the one asked for, or else the bridge's own. -/
def limit (a : Adb) (requested : Option Binary64) : Except Fault (Option Binary64) :=
  match requested.map Quantity.double <|> a.timeout with
  | none => .ok none
  | some q => if q.isNonPositive then .ok none else q.toDouble.map some

/-- A command line in messages. -/
def shownLine (arguments : List String) : String := " ".intercalate arguments

/-- A time limit in messages. -/
def shownLimit : Option Binary64 → String
  | none => "None"
  | some seconds => seconds.toText

/-- The fault of a process that could not be run. -/
def cannotRun (arguments : List String) (reason : String) : Fault :=
  .unreachable ("adb command could not run: " ++ shownLine arguments ++ ": " ++ reason)

/-- The fault of a command that failed. -/
def commandFailed (arguments : List String) (r : ProcessResult) : Fault :=
  .unreachable ("adb command failed (rc=" ++ toString r.code ++ "): " ++ shownLine arguments ++
    "\nstdout: " ++ r.output.getD "None" ++ "\nstderr: " ++ r.errors.getD "None")

/-- What is made of the end of a process; `check` asks for success. -/
def conclude (a : Adb) (call : ProcessCall) (check : Bool) :
    ProcessOutcome → Except Fault AdbResult
  | .exited r =>
    if check && r.code ≠ 0 then .error (commandFailed call.arguments r)
    else .ok ⟨call.arguments, r.output, r.errors, r.code⟩
  | .timedOut =>
    .error (.unreachable ("adb command timed out after " ++ shownLimit call.timeout ++ "s: " ++
      shownLine call.arguments))
  | .refused number message =>
    .error (cannotRun call.arguments
      ("[Errno " ++ toString number ++ "] " ++ message ++ ": " ++ Text.quote a.path))
  | .failed (.os message) | .failed (.timedOut message) =>
    .error (cannotRun call.arguments message)
  | .failed fault => .error fault

end Adb
end DeviceSampling
