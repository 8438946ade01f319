/-
# Reports of several processes

From a record on the device, a report is written and read back for each process in turn, and the
metrics are merged.  The run stops at the first failure and keeps what was gathered before it.

* `Session.readReport` reads the text of one report and logs a malformed line;
* `Session.processReport` is the part of one process;
* `Session.reportRun` goes through the processes in order;
* `Session.reportMetrics` keeps of a run what it gathered.
-/
import DeviceSampling.Report.Parser
import DeviceSampling.Session.Command
import DeviceSampling.Session.Device

namespace DeviceSampling

/-! ## 1. Results -/

/-- Why a run of reports stopped early. -/
inductive RunFault where
  | unreachable (message : String)
  /-- A command that did not succeed: what it was for, and what it left. -/
  | command (what : String) (result : ShellResult)
  | malformed (fault : ReportFault)
  deriving DecidableEq, Repr

/-- What a failed command has to say. -/
def failureText (what : String) (r : ShellResult) : String :=
  let said := Text.strip r.printed
  what ++ " failed (rc=" ++ toString r.code ++ "): " ++ (if said.isEmpty then "no output" else said)

/-- The message of a run fault. -/
def RunFault.message : RunFault → String
  | .unreachable message => message
  | .command what result => failureText what result
  | .malformed fault => fault.message

/-- The metrics of a run, with the fault that ended it early, if any. -/
structure RunReport where
  metrics : Metrics := {}
  fault : Option RunFault := none
  deriving DecidableEq, Repr

/-- Whether the run went through all processes. -/
def RunReport.complete (r : RunReport) : Bool := r.fault.isNone

namespace Session

variable {C : Type} {R : C → Type}

/-! ## 2. One process -/

/-- Reads the text of a report; a malformed line is logged. -/
def readReport (text process : String) (wanted : List String) : Dialog C R ParsedReport :=
  match parseReport text process wanted with
  | .error overflow => .fail (.report overflow)
  | .ok parsed =>
    match parsed.fault with
    | none => .done parsed
    | some fault => do
      Dialog.say .error .report ("Could not parse simpleperf report: " ++ fault.message)
      return parsed

/-- The report of one process: its metrics, with the fault that ended it early, if any. -/
def processReport (config : SamplerConfig) (record : String) (wanted : List String)
    (process pids : String) : Session RunReport := do
  match ← issue .report (config.reportCommand record pids) with
  | .error (.unreachable message) => cannotGenerate message
  | .error fault => .fail fault
  | .ok written =>
    if !written.ok then
      let fault := RunFault.command "simpleperf report" written
      say .error ("Could not generate report: " ++ fault.message)
      return { fault := some fault }
    else
      let path := SamplerConfig.reportPath record
      match ← issue .readReport (readCommand path) with
      | .error (.unreachable message) => cannotGenerate message
      | .error fault => .fail fault
      | .ok text =>
        if !text.ok then
          let fault := RunFault.command ("read " ++ path) text
          say .error ("Could not open report file: " ++ fault.message)
          return { fault := some fault }
        else
          let parsed ← readReport text.output process wanted
          return ⟨parsed.metrics, parsed.fault.map .malformed⟩
where
  /-- The end of a run whose device cannot be reached. -/
  cannotGenerate (message : String) : Session RunReport := do
    say .error ("Could not generate report: " ++ message)
    return { fault := some (.unreachable message) }

/-! ## 3. All processes -/

/-- The reports of the processes, merged with what was gathered before. -/
def reportRunFrom (config : SamplerConfig) (record : String) (wanted : List String)
    (gathered : Metrics) : List (String × String) → Session RunReport
  | [] => do
    say .info "Simpleperf Metrics report collected."
    return { metrics := gathered }
  | (process, pids) :: rest => do
    let one ← processReport config record wanted process pids
    let merged := gathered.merge one.metrics
    match one.fault with
    | some fault => return ⟨merged, some fault⟩
    | none => reportRunFrom config record wanted merged rest

/-- The metrics of a record for processes with their ids, and the shares of the wanted symbols. -/
def reportRun (config : SamplerConfig) (record : String) (processes : List (String × String))
    (wanted : List String) : Session RunReport :=
  reportRunFrom config record wanted {} processes

/-- The metrics that a run gathered, whether or not it went through all processes. -/
def reportMetrics (config : SamplerConfig) (record : String) (processes : List (String × String))
    (wanted : List String) : Session Metrics := do
  return (← reportRun config record processes wanted).metrics

end Session
end DeviceSampling
