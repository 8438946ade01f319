/-
# Launches

The command that starts the sampler ends only when the sampler does, so a worker runs it.  A
LAUNCH is the handle of that worker: not yet started, held up in the device with the answer that
it will get, or at its end with the output or the fault.

The launch has one result, which is pending, running or finished.  A worker that finds it pending
takes it and runs the command; one that finds it taken dies before it has done anything.  Starts
come one after the other here, each worker finding what the one before it left, so the first start
is the one whose worker takes the result.  Which of two starts at the same time would be first is
not said.

* `Launch.start` starts a worker;
* `Launch.release` lets a held worker go on to its end;
* `Launch.abandon` only marks the handle: the worker is never cancelled.
-/
import DeviceSampling.Session.Device

namespace DeviceSampling

/-- How far a worker has come. -/
inductive LaunchProgress where
  | notStarted
  /-- In the device, with the answer that it will get. -/
  | held (answer : Except Fault ShellResult)
  | finished (output : String)
  | failed (fault : Fault)

/-- The state of the result of a launch. -/
inductive LaunchState where
  | pending
  | running
  | finished
  deriving DecidableEq, Repr

/-- The state of the result, by how far the worker that took it has come. -/
@[simp] def LaunchProgress.state : LaunchProgress → LaunchState
  | .notStarted => .pending
  | .held _ => .running
  | .finished _ | .failed _ => .finished

/-- The handle of a worker. -/
structure Launch where
  command : String
  progress : LaunchProgress := .notStarted
  abandoned : Bool := false

namespace Launch

/-- Whether the result is there, from a worker at its end. -/
def isDone (l : Launch) : Bool := l.progress.state = .finished

/-- The output of a worker that ended well. -/
def output? (l : Launch) : Option String :=
  match l.progress with
  | .finished output => some output
  | _ => none

/-- The fault of a worker that failed. -/
def fault? (l : Launch) : Option Fault :=
  match l.progress with
  | .failed fault => some fault
  | _ => none

/-- The handle, marked as abandoned. -/
def abandon (l : Launch) : Launch := { l with abandoned := true }

/-- The end of a worker that gets its answer.  A command that ran is a result whatever its exit
code. -/
def finish (l : Launch) : Except Fault ShellResult → Session Launch
  | .error fault => do
    Session.say .error ("Failed to start simpleperf: " ++ fault.message)
    return { l with progress := .failed fault }
  | .ok r => do
    if r.ok then pure () else
      Session.say .error ("Simpleperf start command exited with rc=" ++ toString r.code ++ ": " ++
        Text.strip r.errors)
    Session.say .info ("Simpleperf start command output - " ++ r.output)
    return { l with progress := .finished r.output }

/-- The worker that has taken the result: it goes on to its end unless it is held up in the
device. -/
def work (l : Launch) (timeout : Option Binary64) : Session Launch := do
  Session.say .info ("Start command: " ++ l.command)
  Dialog.spawn ⟨.start, l.command, timeout⟩ fun held answer =>
    if held then .done { l with progress := .held answer } else l.finish answer

/-- Starts a worker. -/
def start (l : Launch) (timeout : Option Binary64) : Session Launch :=
  match l.progress.state with
  | .pending => l.work timeout
  -- the new worker dies: the result is another's
  | .running | .finished => pure l

/-- Lets the worker go on if it is held up. -/
def release (l : Launch) : Session Launch :=
  match l.progress with
  | .held answer => l.finish answer
  | _ => pure l

end Launch
end DeviceSampling
