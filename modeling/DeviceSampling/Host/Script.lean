/-
# A scripted host

A host for trying a run out: its device answers from a script, its clock keeps virtual time, and
its files are a tree.  A script gives answers by the beginning of a command; the longest
beginning that fits counts, its answers are used up one after the other, and the last one
repeats.  A command that fits nothing succeeds and prints nothing.

* `Script.next` answers one command;
* `ScriptedHost.world` is the host as a world for dialogues.
-/
import DeviceSampling.Adb.Run
import DeviceSampling.Clock

namespace DeviceSampling

/-! ## 1. Scripts -/

/-- An answer of a script, and whether a worker that gets it is held up. -/
structure ScriptedAnswer where
  outcome : ProcessOutcome := .exited {}
  hold : Bool := false

/-- Answers by the beginnings of commands. -/
structure Script where
  entries : List (String × List ScriptedAnswer) := []

namespace Script

/-- The script with answers for a beginning, in place of earlier ones. -/
def put (s : Script) (beginning : String) (answers : List ScriptedAnswer) : Script :=
  ⟨(beginning, answers) :: s.entries.filter (·.1 ≠ beginning)⟩

/-- The longest beginning of a command that has answers. -/
def longest? (s : Script) (command : String) : Option (String × List ScriptedAnswer) :=
  s.entries.foldl (fun best e =>
    if e.1.toList.isPrefixOf command.toList then
      match best with
      | none => some e
      | some b => if b.1.length < e.1.length then some e else best
    else best) none

/-- The answer to a command, and the script after it. -/
def next (s : Script) (command : String) : ScriptedAnswer × Script :=
  match s.longest? command with
  | some (beginning, answer :: rest@(_ :: _)) => (answer, s.put beginning rest)
  | some (_, answer :: []) => (answer, s)
  | _ => ({}, s)

end Script

/-- The end of a process as the answer of a device. -/
def ProcessOutcome.toShell : ProcessOutcome → Except Fault ShellResult
  | .exited r => .ok ⟨r.output.getD "", r.errors.getD "", r.code⟩
  | .timedOut => .error (.timedOut "")
  | .refused _ message => .error (.os message)
  | .failed fault => .error fault

/-! ## 2. The host -/

/-- The state of a scripted host. -/
structure ScriptedHost where
  script : Script := {}
  files : FileTree := {}
  clock : VirtualClock := {}
  /-- The sleep that is interrupted, counted from zero. -/
  interruptAt : Option Nat := none
  /-- All that was printed. -/
  printed : String := ""

namespace ScriptedHost

/-- The command that a process of the bridge runs, by which a script knows it. -/
def commandOf (a : Adb) (call : ProcessCall) : String :=
  match call.arguments.drop a.base.length with
  | ["shell", command] => command
  | arguments => " ".intercalate arguments

/-- The answer of the script to a command. -/
def ask (h : ScriptedHost) (command : String) : ScriptedAnswer × ScriptedHost :=
  let (answer, script) := h.script.next command
  (answer, { h with script })

/-- The answer to a call. -/
def call (a : Adb) : (c : HostCall) → ScriptedHost → HostAnswer c × ScriptedHost
  | .shell c, h =>
    let (answer, h') := h.ask c.command
    (answer.outcome.toShell, h')
  | .process c, h =>
    let (answer, h') := h.ask (commandOf a c)
    (answer.outcome, h')
  | .makeDirectories path, h =>
    match h.files.makeDirectories path with
    | .ok files => ((.ok () : Except Fault Unit), { h with files })
    | .error fault => ((.error fault : Except Fault Unit), h)
  | .print line, h => ((), { h with printed := h.printed ++ line ++ "\n" })

/-- The answer to a call of a worker, and whether the worker is held up. -/
def spawn (a : Adb) : (c : HostCall) → ScriptedHost → (Bool × HostAnswer c) × ScriptedHost
  | .shell c, h =>
    let (answer, h') := h.ask c.command
    ((answer.hold, answer.outcome.toShell), h')
  | .process c, h =>
    let (answer, h') := h.ask (commandOf a c)
    ((answer.hold, answer.outcome), h')
  | c, h =>
    let (answer, h') := call a c h
    ((false, answer), h')

/-- A sleep; true if it is the one that is interrupted. -/
def sleep (seconds : Binary64) (h : ScriptedHost) : Bool × ScriptedHost :=
  (h.interruptAt = some h.clock.sleeps.length, { h with clock := h.clock.sleep seconds })

/-- The host as a world, known to the script through the given bridge. -/
def world (a : Adb) : Dialog.World HostCall HostAnswer ScriptedHost :=
  ⟨call a, spawn a, sleep⟩

end ScriptedHost
end DeviceSampling
