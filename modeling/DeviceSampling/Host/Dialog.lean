/-
# Dialogues with the host

What a run asks of the machine it runs on: commands of a device that is given, processes,
directories, and lines of output.

* `HostCall` and `HostAnswer` are the interface;
* `Session.onGivenDevice` carries a session out on a given device.
-/
import DeviceSampling.Adb.Basic
import DeviceSampling.Host.Tree

namespace DeviceSampling

/-- Something asked of the host. -/
inductive HostCall where
  /-- A command of a device that is given. -/
  | shell (call : ShellCall)
  | process (call : ProcessCall)
  /-- A directory, with those above it. -/
  | makeDirectories (path : HostPath)
  /-- A line of output. -/
  | print (line : String)

/-- The answer. -/
def HostAnswer : HostCall → Type
  | .shell _ => Except Fault ShellResult
  | .process _ => ProcessOutcome
  | .makeDirectories _ => Except Fault Unit
  | .print _ => Unit

/-- A dialogue with the host. -/
abbrev Host (α : Type) : Type := Dialog HostCall HostAnswer α

namespace Host

/-- Runs a process. -/
def runProcess (call : ProcessCall) : Host ProcessOutcome :=
  Dialog.call (.process call) fun (outcome : ProcessOutcome) => .done outcome

/-- Makes a directory and those above it. -/
def makeDirectories (path : HostPath) : Host Unit :=
  Dialog.call (.makeDirectories path) fun (answer : Except Fault Unit) => Dialog.ofExcept answer

/-- Prints a line. -/
def print (line : String) : Host Unit :=
  Dialog.call (.print line) fun (_ : Unit) => .done ()

end Host

/-- The session on a given device. -/
def Session.onGivenDevice {α : Type} (d : Session α) : Host α :=
  d.lower
    (fun c => Dialog.call (.shell c) fun (answer : Except Fault ShellResult) => .done answer)
    (fun c => Dialog.spawn (.shell c) fun held (answer : Except Fault ShellResult) =>
      .done (held, answer))

end DeviceSampling
