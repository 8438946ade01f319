/-
# Starting and stopping

A sampling session starts the sampler in a worker and polls until it runs; it ends by an
interrupt to the sampler and polls until it no longer runs, after which the record is moved to
its destination.

* `Session.stopSampler` checks, interrupts, and waits;
* `Session.startCollecting` stops a sampler that already runs, launches, and waits;
* `Session.stopCollecting` stops the sampler and moves the record, in that order.
-/
import DeviceSampling.Polling
import DeviceSampling.Session.Launch
import DeviceSampling.Session.ProcessIds

namespace DeviceSampling
namespace Session

/-! ## 1. Stopping -/

/-- Waits for the sampler to end, after it was told to. -/
def awaitStop (config : SamplerConfig) : Session Bool := do
  say .info "Simpleperf stop command ran"
  let stopped ← pollUntil (do return !(← isRunning config)) config.stopWait "simpleperf stop"
  if stopped then
    say .info "Simpleperf stopped successfully."
    return true
  else
    say .error "Simpleperf failed to stop"
    return false

/-- What is made of the answer to an interrupt.  A failure that says nothing means that the
sampler has ended already. -/
def readInterrupt (config : SamplerConfig) : Except Fault ShellResult → Session Bool
  | .error (.unreachable message) => do
    say .error ("Unable to stop the simpleperf sampling due to " ++ message)
    return false
  | .error fault => .fail fault
  | .ok r =>
    if !r.ok && !Text.isBlankText r.errors then do
      say .error ("Unable to stop the simpleperf sampling due to " ++ Text.strip r.errors)
      return false
    else awaitStop config

/-- Tells a running sampler to end, and waits for it. -/
def stopSampler (config : SamplerConfig) : Session Bool := do
  if ← isRunning config then
    let answer ← issue .interrupt config.interruptCommand
    readInterrupt config answer
  else
    say .error "Simpleperf stop called, but simpleperf is not running."
    return false

/-! ## 2. Moving the record -/

/-- Whether a command did its work: a success that printed nothing. -/
def wentQuietly (r : ShellResult) : Bool := r.ok && Text.isBlankText r.printed

/-- The message of a move that could not be tried or not be made. -/
def sayCannotMove (message : String) : Session Bool := do
  say .error ("Unable to move the simpleperf sample file to destination file. " ++ message)
  return false

/-- Moves the record to its destination, whose directory exists. -/
def moveFile (config : SamplerConfig) (destination : String) : Session Bool := do
  match ← issue .move (config.moveCommand destination) with
  | .error (.unreachable message) => sayCannotMove message
  | .error fault => .fail fault
  | .ok r =>
    if wentQuietly r then return true
    else
      say .error ("Unable to move simpleperf output file from " ++ config.recordPath ++ " to " ++
        destination ++ " due to " ++ Text.strip r.printed)
      return false

/-- Moves the record to its destination, making the directory first if one is named. -/
def moveRecord (config : SamplerConfig) (destination : String) : Session Bool := do
  let dir := Shell.directory destination
  if dir.isEmpty then moveFile config destination
  else
    match ← issue .makeDirectory (makeDirectoryCommand dir) with
    | .error (.unreachable message) => sayCannotMove message
    | .error fault => .fail fault
    | .ok r =>
      if wentQuietly r then moveFile config destination
      else
        say .error ("Result output directory " ++ dir ++ " not created successfully: " ++
          Text.strip r.printed)
        return false

/-- Stops the sampler and moves the record to its destination. -/
def stopCollecting (config : SamplerConfig) (destination : String) : Session Bool := do
  say .info "Stopping simpleperf."
  if ← stopSampler config then moveRecord config destination
  else
    say .error "Simpleperf failed to stop"
    return false

/-! ## 3. Starting -/

/-- Makes sure that no sampler runs before a new one is launched. -/
def clearTheWay (config : SamplerConfig) : Session Bool := do
  say .info "Cleanup simpleperf before starting."
  if ← isRunning config then
    say .info "Simpleperf is already running. Stopping simpleperf."
    stopSampler config
  else return true

/-- The time limit of a launch; zero stands for none. -/
def launchTimeout (config : SamplerConfig) : Except Fault Binary64 :=
  match config.recordTimeout with
  | none => .ok Binary64.zero
  | some q => q.toDouble

/-- Waits for the sampler to run, after it was launched. -/
def awaitStart (config : SamplerConfig) : Session Bool := do
  let started ← pollUntil (isRunning config) config.startWait "simpleperf start"
  if started then
    say .info "Simpleperf sampling started successfully."
    return true
  else
    say .error "Simpleperf sampling failed to start."
    return false

/-- Starts the sampler in a fresh launch and waits for it to run.  The launch is there, started
or not, whatever the end is. -/
def launchAndWait (config : SamplerConfig) (command : String) :
    Session (Launch × Except Fault Bool) := do
  let launch : Launch := { command }
  match launchTimeout config with
  | .error fault => return (launch, .error fault)
  | .ok timeout =>
    let started ← launch.start (some timeout)
    return (started, ← (awaitStart config).attempt)

/-- Starts sampling: true once the sampler runs.  With the result comes the launch, if one was
made. -/
def startCollecting (config : SamplerConfig) (subcommand arguments : String) :
    Session (Option Launch × Except Fault Bool) := do
  match ← (clearTheWay config).attempt with
  | .error fault => return (none, .error fault)
  | .ok false => return (none, .ok false)
  | .ok true =>
    say .info "Starting simpleperf"
    let (launch, result) ← launchAndWait config (config.startCommand subcommand arguments)
    return (some launch, result)

end Session
end DeviceSampling
