/-
# Running a command

An invocation is carried out on the device: the one that is given, or else the one that the
bridge reaches.  It ends with an exit code.

* `Invocation.run` is the whole run: the configuration, and then the command;
* `record` keeps its promises if the user interrupts the sampling: the sampler is stopped and the
  record is kept;
* `Invocation.console` is what a run shows of its log.
-/
import DeviceSampling.Adb.Run
import DeviceSampling.CommandLine.Invocation
import DeviceSampling.Config.File
import DeviceSampling.Json.Writer
import DeviceSampling.Session.ReportRun
import DeviceSampling.Session.Sampling

namespace DeviceSampling
namespace CommandLine

/-! ## 1. Devices -/

/-- The device of a run. -/
inductive Device where
  | given
  | bridged (adb : Adb)

/-- Carries a session out on a device. -/
def Device.carryOut {α : Type} (device : Device) (d : Session α) : Host α :=
  match device with
  | .given => d.onGivenDevice
  | .bridged adb => d.throughBridge adb

/-- Writes a log record of the command line. -/
def say (severity : Severity) (message : String) : Host Unit :=
  Dialog.say severity .commandLine message

/-! ## 2. Commands -/

/-- Shows whether the sampler runs. -/
def status (config : SamplerConfig) (device : Device) : Host Nat := do
  let running ← device.carryOut (Session.isRunning config)
  Host.print (if running then "running" else "not running")
  return if running then 0 else 1

/-- Shows the ids of a process. -/
def showIds (device : Device) (process : String) : Host Nat := do
  let ids ← device.carryOut (Session.processIds process)
  if ids.isEmpty then return 1
  Host.print ids
  return 0

/-- Samples for a time that is not below zero, or until the user interrupts. -/
def sample (duration : Binary64) : Host Unit :=
  let seconds := if Binary64.zero.lt duration then duration else .zero
  Dialog.sleep seconds fun interrupted =>
    if interrupted then say .info "Interrupted; stopping simpleperf early." else .done ()

/-- Copies the record to the host. -/
def pullRecord (device : Device) (source : String) (destination : HostPath) : Host Nat := do
  match device with
  | .given =>
    say .error "--pull needs an adb device"
    return 1
  | .bridged adb =>
    let result ← adb.pull source destination none false
    if result.ok then
      Host.print ("Pulled record -> " ++ destination.text)
      return 0
    else
      say .error ("adb pull failed: " ++ Text.strip result.printed)
      return 1

/-- Stops the sampler, keeps the record, and copies it to the host if that is wanted. -/
def keepRecord (config : SamplerConfig) (device : Device) (request : RecordRequest) :
    Host Nat := do
  if ← device.carryOut (Session.stopCollecting config request.destination) then
    Host.print ("Wrote record -> " ++ request.destination)
    match request.pull with
    | none => return 0
    | some destination => pullRecord device request.destination destination
  else return 1

/-- One sampling session. -/
def record (config : SamplerConfig) (device : Device) (request : RecordRequest) : Host Nat := do
  let (_, started) ← device.carryOut
    (Session.startCollecting config request.subcommand request.arguments)
  match started with
  | .error fault => .fail fault
  | .ok false => return 1
  | .ok true =>
    sample request.duration
    keepRecord config device request

/-- The ids of processes; a process that comes again keeps its place and has the last ids.
Nothing if one of them does not run. -/
def lookUpAll (device : Device) (found : List (String × String)) :
    List String → Host (Option (List (String × String)))
  | [] => return some found
  | process :: rest => do
    let ids ← device.carryOut (Session.processIds process)
    if ids.isEmpty then
      say .error ("Process " ++ process ++ " is not running on the device")
      return none
    else lookUpAll device (Metrics.insertEntry process ids found) rest

/-- Figures from a record. -/
def report (config : SamplerConfig) (device : Device) (request : ReportRequest) : Host Nat := do
  match ← lookUpAll device [] request.processes with
  | none => return 1
  | some processes =>
    let result ← device.carryOut
      (Session.reportRun config request.record processes request.symbols)
    Host.print (Json.writeMetrics result.metrics)
    match result.fault with
    | none => return 0
    | some fault =>
      say .warning ("Report is partial: " ++ fault.message)
      return 2

/-- Carries out a command. -/
def Command.run (config : SamplerConfig) (device : Device) : Command → Host Nat
  | .status => CommandLine.status config device
  | .processIds process => showIds device process
  | .record request => CommandLine.record config device request
  | .report request => CommandLine.report config device request

/-! ## 3. Invocations -/

/-- How a run ends, unless by a fault. -/
inductive Completion where
  | exit (code : Nat)
  /-- The configuration file is at fault, and the user is told so as of a wrong usage. -/
  | usage (message : String)
  /-- The configuration file is at fault, and the run breaks off. -/
  | brokenConfig (fault : ConfigFileFault)

/-- Whether the user is told of a configuration fault as of a wrong usage: faults of what the
file says, or that there is none.  Other faults of the system, of YAML, and of numbers break the
run off. -/
def tellsUsage : ConfigFileFault → Bool
  | .notFound _ | .notText _ | .unknownFormat _ | .json .. | .notMapping _ => true
  | .tooLong _ | .denied _ | .isDirectory _ => false
  | .yaml fault => fault.isBadValue
  | .config _ .integerTooLarge => false
  | .config .. => true

/-- The first of two texts, unless it is missing or empty. -/
def orDefault (given : Option String) (default : String) : String :=
  match given with
  | none => default
  | some s => if s.isEmpty then default else s

/-- The first of two texts that is neither missing nor empty. -/
def orElse (given default : Option String) : Option String :=
  match given with
  | none => default
  | some s => if s.isEmpty then default else some s

namespace Invocation

/-- The settings of an invocation. -/
def settings (inv : Invocation) (files : FileTree) : Except ConfigFileFault Config :=
  match inv.config with
  | none => .ok {}
  | some path => Config.load files path

/-- The bridge of an invocation: options go before settings. -/
def bridge (inv : Invocation) (config : AdbConfig) : Adb where
  path := orDefault inv.adbPath config.adbPath
  serial := orElse inv.serial config.serial
  timeout := some config.timeout

/-- The device of an invocation, unless one is given. -/
def device (inv : Invocation) (given : Bool) (config : AdbConfig) : Device :=
  if given then .given else .bridged (inv.bridge config)

/-- Carries an invocation out. -/
def run (inv : Invocation) (given : Bool) (files : FileTree) : Host Completion :=
  match inv.settings files with
  | .error fault =>
    .done (if tellsUsage fault then .usage fault.message else .brokenConfig fault)
  | .ok config => do
    return .exit (← inv.command.run config.sampler (inv.device given config.adb))

/-- Whether a record is shown: details only if they are asked for. -/
def shows (inv : Invocation) (r : LogRecord) : Bool := inv.verbose || r.severity ≠ .debug

/-- What a run shows of its log, a line for each record. -/
def console (inv : Invocation) (events : List (Dialog.Event HostCall HostAnswer)) : String :=
  "".intercalate (events.filterMap fun
    | .logged r => if inv.shows r then some (r.line ++ "\n") else none
    | _ => none)

end Invocation
end CommandLine
end DeviceSampling
