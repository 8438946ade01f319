/-
# Commands through the bridge

* `Adb.run` runs a command of the bridge, `Adb.shell` one of the device, `Adb.pull` copies a file
  from the device;
* `Adb.Request` is what may be asked of the bridge, `Adb.Request.perform` carries it out;
* `Session.throughBridge` carries a session out through the bridge: every command of the session
  becomes one process.
-/
import DeviceSampling.Host.Dialog

namespace DeviceSampling
namespace Adb

/-- The process of a command, once its time limit is known. -/
def process (a : Adb) (purpose : Option Purpose) (arguments : List String)
    (timeout : Option Binary64) : ProcessCall :=
  ⟨purpose, a.base ++ arguments, timeout⟩

/-- Tells which command line is about to be run. -/
def announce (a : Adb) (arguments : List String) : Host Unit :=
  Dialog.say .debug .controller ("adb: " ++ shownLine (a.base ++ arguments))

/-- Runs a command of the bridge; `check` asks for success. -/
def run (a : Adb) (arguments : List String) (timeout : Option Binary64) (check : Bool) :
    Host AdbResult := do
  a.announce arguments
  match a.limit timeout with
  | .error fault => .fail fault
  | .ok limit =>
    let call := a.process none arguments limit
    let outcome ← Host.runProcess call
    Dialog.ofExcept (a.conclude call check outcome)

/-- Runs a command on the device. -/
def shell (a : Adb) (command : String) (timeout : Option Binary64) (check : Bool) :
    Host AdbResult :=
  a.run ["shell", command] timeout check

/-- A time limit given in milliseconds. -/
def ofMilliseconds (n : Int) : Except Fault Binary64 :=
  match Binary64.ofInt? n with
  | some x => .ok (x.divNat 1000)
  | none => .error .integerTooLarge

/-- Copies a file from the device, making the directories above its place on the host. -/
def pull (a : Adb) (source : String) (destination : HostPath) (timeout : Option Binary64)
    (check : Bool) : Host AdbResult := do
  Host.makeDirectories destination.parent
  a.run ["pull", source, destination.text] timeout check

/-- What may be asked of the bridge. -/
inductive Request where
  /-- A command of the bridge. -/
  | run (arguments : List String) (timeout : Option Binary64) (check : Bool)
  /-- A command on the device, with a time limit in seconds or milliseconds. -/
  | shell (command : String) (timeout : Option Binary64) (milliseconds : Option Int) (check : Bool)
  /-- A command on the device whose exit code is left to the caller. -/
  | execute (command : String) (timeout : Option Binary64)
  /-- A copy of a file of the device. -/
  | pull (source : String) (destination : HostPath) (timeout : Option Binary64) (check : Bool)
  deriving DecidableEq

/-- The time limit that is asked for, in seconds: one in milliseconds goes first. -/
def requested (timeout : Option Binary64) : Option Int → Except Fault (Option Binary64)
  | none => .ok timeout
  | some n => (ofMilliseconds n).map some

/-- Carries a request out. -/
def Request.perform (a : Adb) : Request → Host AdbResult
  | .run arguments timeout check => a.run arguments timeout check
  | .shell command timeout milliseconds check => do
    a.shell command (← Dialog.ofExcept (requested timeout milliseconds)) check
  | .execute command timeout => a.shell command timeout false
  | .pull source destination timeout check => a.pull source destination timeout check

/-- Carries out one command of a session; its failure is left to the session. -/
def serve (a : Adb) (c : ShellCall) : Host (Except Fault ShellResult) := do
  a.announce ["shell", c.command]
  match a.limit c.timeout with
  | .error fault => return .error fault
  | .ok limit =>
    let call := a.process (some c.purpose) ["shell", c.command] limit
    let outcome ← Host.runProcess call
    return (a.conclude call false outcome).map AdbResult.toShell

/-- Carries out a command of a session by a worker. -/
def serveWorker (a : Adb) (c : ShellCall) : Host (Bool × Except Fault ShellResult) := do
  a.announce ["shell", c.command]
  match a.limit c.timeout with
  | .error fault => return (false, .error fault)
  | .ok limit =>
    let call := a.process (some c.purpose) ["shell", c.command] limit
    Dialog.spawn (HostCall.process call) fun held (outcome : ProcessOutcome) =>
      .done (held, (a.conclude call false outcome).map AdbResult.toShell)

end Adb

/-- The session through a bridge. -/
def Session.throughBridge {α : Type} (a : Adb) (d : Session α) : Host α :=
  d.lower a.serve a.serveWorker

end DeviceSampling
