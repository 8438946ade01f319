/-
# Process ids

The device shows the ids of a process as groups of digits between blanks, and nothing if the
process does not run.

* `isIdList` says whether a text shows ids;
* `Session.isRunning` checks for the sampler: a check that fails counts as not running;
* `Session.processIds` looks a process up for later use, and never fails.
-/
import DeviceSampling.Session.Command
import DeviceSampling.Session.Device
import DeviceSampling.Text.Digit

namespace DeviceSampling

/-- Whether a text without blanks at its ends is a list of ids: one word at least, and all words
digits. -/
def isIdList (s : String) : Bool :=
  let ws := Text.words s.toList
  !ws.isEmpty && ws.all fun w => w.all Text.isDigit

/-- Whether a result shows that a process runs, and nothing else. -/
def ShellResult.showsRunning (r : ShellResult) : Bool :=
  Text.isBlankText r.errors && r.ok && isIdList (Text.strip r.output)

namespace Session

/-- What a running check makes of its answer. -/
def readRunning : Except Fault ShellResult → Session Bool
  | .error (.unreachable message) => do
    say .error ("Unable to check simpleperf status: " ++ message)
    return false
  | .error fault => .fail fault
  | .ok r => do
    say .info ("Simpleperf process id - " ++ Text.strip r.output)
    if Text.isBlankText r.errors then pure () else
      say .error ("Unable to check simpleperf status: " ++ Text.strip r.errors)
    return r.showsRunning

/-- Whether the sampler runs. -/
def isRunning (config : SamplerConfig) : Session Bool := do
  let answer ← issue .runningCheck config.runningCommand
  readRunning answer

/-- The ids of a process as the device shows them; the empty text if there are none or they
cannot be looked up, whichever fault the device answers with. -/
def processIds (process : String) : Session String := do
  match ← issue .lookUp (lookUpCommand process) with
  | .error fault =>
    say .error ("Could not resolve PID for " ++ process ++ ": " ++ fault.message)
    return ""
  | .ok r =>
    let ids := Text.strip r.output
    if r.ok && isIdList ids then return ids
    else
      say .error ("Could not resolve PID for " ++ process ++ ": " ++ Text.strip r.printed)
      return ""

end Session
end DeviceSampling
