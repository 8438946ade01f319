/-
# The program

The program decides and its caller acts.  Whatever a run needs from the host goes to standard
output as one JSON object a line, and the caller's answer comes back on standard input as one
line too; the log goes to standard error.

* `run` and `start` name a command line with a time limit.  The answer has a code and what was
  printed, or says that time ran out, that the process was refused for a numbered reason, or, of
  a process that was started, that it is still running.
* `sleep` names seconds; the answer may say that the user interrupted.
* `directories` names a directory to be made; the answer may have an error.
* `print` is a line of output and has no answer.
-/
import DeviceSampling.CommandLine.Run

namespace DeviceSampling
namespace Program

open CommandLine

/-! ## 1. Requests -/

/-- A text in JSON. -/
def jsonText (s : String) : String := String.ofList (Json.quoteText s)

/-- An object with one field, or two. -/
def request (name body : String) (more : List (String × String)) : String :=
  let field (n b : String) := jsonText n ++ ": " ++ b
  "\x7b" ++ ", ".intercalate (field name body :: more.map fun m => field m.1 m.2) ++ "\x7d"

/-- A request for a process. -/
def processRequest (name : String) (call : ProcessCall) : String :=
  request name ("[" ++ ", ".intercalate (call.arguments.map jsonText) ++ "]")
    [("timeout", match call.timeout with
      | none => "null"
      | some t => jsonText t.toText)]

/-! ## 2. Answers -/

/-- A field of an answer. -/
def field? (answer : Value) (name : String) : Option Value :=
  match answer with
  | .mapping entries => Value.lookup name entries
  | _ => none

/-- Whether an answer has yes for a name. -/
def affirms (answer : Value) (name : String) : Bool :=
  match field? answer name with
  | some (.bool b) => b
  | _ => false

/-- A text of an answer. -/
def text? (answer : Value) (name : String) : Option String :=
  match field? answer name with
  | some (.text s) => some s
  | _ => none

/-- A number of an answer. -/
def integer? (answer : Value) (name : String) : Option Int :=
  match field? answer name with
  | some (.int n) => some n
  | _ => none

/-- The end of a process, as an answer tells it. -/
def outcomeOf (answer : Value) : ProcessOutcome :=
  if affirms answer "timed_out" then .timedOut
  else match integer? answer "refused" with
    | some number => .refused number ((text? answer "message").getD "")
    | none =>
      .exited ⟨text? answer "stdout", text? answer "stderr", (integer? answer "code").getD 0⟩

/-- Sends a line to the caller. -/
def send (line : String) : IO Unit := do
  let out ← IO.getStdout
  out.putStrLn line
  out.flush

/-- Sends a request and reads its answer; what cannot be read counts as no answer. -/
def exchange (line : String) : IO Value := do
  send line
  match Json.read (← (← IO.getStdin).getLine) with
  | .ok v => return v
  | .error _ => return .null

/-! ## 3. Runs -/

/-- Asks the caller for something. -/
def ask : (c : HostCall) → IO (HostAnswer c)
  | .shell c => return (.error (.unreachable ("no device for: " ++ c.command)) :
      Except Fault ShellResult)
  | .process c => return outcomeOf (← exchange (processRequest "run" c))
  | .makeDirectories path => do
    match text? (← exchange (request "directories" (jsonText path.text) [])) "error" with
    | none => return (.ok () : Except Fault Unit)
    | some message => return (.error (.os message) : Except Fault Unit)
  | .print line => send (request "print" (jsonText line) [])

/-- Has the caller start something; true if it is still running. -/
def start : (c : HostCall) → IO (Bool × HostAnswer c)
  | .process c => do
    let answer ← exchange (processRequest "start" c)
    return (affirms answer "running", outcomeOf answer)
  | c => do return (false, ← ask c)

/-- Carries a dialogue out. -/
def play {α : Type} (inv : Invocation) : Host α → IO (Except Fault α)
  | .done a => return .ok a
  | .fail fault => return .error fault
  | .log r next => do
    if inv.shows r then IO.eprintln r.line
    play inv next
  | .sleep seconds next => do
    let answer ← exchange (request "sleep" (jsonText seconds.toText) [])
    play inv (next (affirms answer "interrupted"))
  | .call c next => do play inv (next (← ask c))
  | .spawn c next => do
    let (running, answer) ← start c
    play inv (next running answer)

/-- What is at a path: a file that may be read or not, a directory, or nothing. -/
def look (path : HostPath) : IO FileTree := do
  let made ← try
      let content ← IO.FS.readBinFile path.text
      pure (({} : FileTree).write path content.toList)
    catch
      | .noFileOrDirectory .. => pure (.ok {})
      | .permissionDenied .. => pure (({} : FileTree).store path .closedFile)
      | _ => pure (({} : FileTree).makeDirectories path)
  match made with
  | .ok files => return files
  | .error _ => return {}

/-- Tells about a wrong usage. -/
def complain (message : String) : IO UInt32 := do
  IO.eprintln ("collectors-simpleperf: error: " ++ message)
  return 2

/-- Tells why a run broke off. -/
def giveUp (message : String) : IO UInt32 := do
  IO.eprintln message
  return 1

/-- Runs the program. -/
def run (words : List String) : IO UInt32 := do
  let environment : Environment :=
    ⟨← IO.getEnv "ANDROID_SERIAL", ← IO.getEnv "COLLECTORS_ADB_PATH"⟩
  match Invocation.ofWords environment words with
  | .error .help =>
    send (request "print" (jsonText
      "usage: collectors-simpleperf [options] status | pid | record | report") [])
    return 0
  | .error (.fault f) => complain f.message
  | .ok inv =>
    let files ← match inv.config with
      | none => pure {}
      | some path => look path
    match ← play inv (inv.run false files) with
    | .ok (.exit code) => return code.toUInt32
    | .ok (.usage message) => complain message
    | .ok (.brokenConfig fault) => giveUp fault.message
    | .error fault => giveUp fault.message

end Program
end DeviceSampling

/-- The program, with the words of its command line. -/
def main (words : List String) : IO UInt32 := DeviceSampling.Program.run words
