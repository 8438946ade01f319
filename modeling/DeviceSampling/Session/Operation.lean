/-
# Sequences of operations

What a user does with a session, operation by operation.  The session keeps the launches that it
has made, because their workers may outlast an operation; the latest is its current launch.  A
launch may also be made apart from the session's own, and is then the one that is handled.

* `Operation.perform` is one operation of the session;
* `performAll` is a sequence of operations, each with its result or fault;
* `LaunchStep.perform` handles launches: starts them, abandons them, and lets held workers go on;
* `SessionStep.perform` is one step of a session, of either kind; `performSession` are many.
-/
import DeviceSampling.Session.ReportRun
import DeviceSampling.Session.Sampling

namespace DeviceSampling

/-! ## 1. State -/

/-- The launches of a session. -/
structure SessionState where
  /-- All launches, in the order in which they were made. -/
  launches : List Launch := []
  /-- The workers that are held up, in the order in which they came to be. -/
  held : List Nat := []
  /-- The session's current launch. -/
  current : Option Nat := none
  /-- The latest launch made apart. -/
  own : Option Nat := none

namespace SessionState

/-- Notes a launch that is held up. -/
def noteHeld (s : SessionState) (index : Nat) (l : Launch) : SessionState :=
  match l.progress with
  | .held _ => if index ∈ s.held then s else { s with held := s.held ++ [index] }
  | _ => s

/-- Adds a launch. -/
def add (s : SessionState) (l : Launch) : SessionState :=
  { s with launches := s.launches ++ [l] }.noteHeld s.launches.length l

/-- Replaces a launch. -/
def replace (s : SessionState) (index : Nat) (l : Launch) : SessionState :=
  { s with launches := s.launches.set index l }.noteHeld index l

/-- The launch that is handled: the one made apart, or else the session's. -/
def handled? (s : SessionState) : Option (Nat × Launch) :=
  (s.own <|> s.current).bind fun index => s.launches[index]?.map (index, ·)

end SessionState

/-! ## 2. Operations -/

/-- An operation of a session. -/
inductive Operation where
  | startCollecting (subcommand arguments : String)
  | stopCollecting (destination : String)
  | stopSampler
  | isRunning
  | processIds (process : String)
  | report (record : String) (processes : List (String × String)) (wanted : List String)
  deriving DecidableEq, Repr

/-- What an operation ends with. -/
inductive OperationResult where
  | flag (b : Bool)
  | ids (text : String)
  | report (r : RunReport)
  deriving DecidableEq, Repr

/-- An operation with its result or fault, and the launches after it. -/
def Operation.perform (config : SamplerConfig) (s : SessionState) :
    Operation → Session (SessionState × Except Fault OperationResult)
  | .startCollecting subcommand arguments => do
    let (launch, result) ← Session.startCollecting config subcommand arguments
    let s' := match launch with
      | none => s
      | some l => { s.add l with current := some s.launches.length }
    return (s', result.map .flag)
  | .stopCollecting destination => do
    return (s, (← (Session.stopCollecting config destination).attempt).map .flag)
  | .stopSampler => do return (s, (← (Session.stopSampler config).attempt).map .flag)
  | .isRunning => do return (s, (← (Session.isRunning config).attempt).map .flag)
  | .processIds process => do
    return (s, (← (Session.processIds process).attempt).map .ids)
  | .report record processes wanted => do
    return (s, (← (Session.reportRun config record processes wanted).attempt).map .report)

/-- A sequence of operations, with the result or fault of each. -/
def performAll (config : SamplerConfig) (s : SessionState) :
    List Operation → Session (SessionState × List (Except Fault OperationResult))
  | [] => return (s, [])
  | o :: rest => do
    let (s', result) ← o.perform config s
    let (s'', results) ← performAll config s' rest
    return (s'', result :: results)

/-! ## 3. Launches -/

/-- Something done to the launches of a session. -/
inductive LaunchStep where
  /-- Makes a launch apart from the session's. -/
  | make (command : String)
  | start (timeout : Option Binary64)
  | abandon
  /-- Lets the held workers go on, one after the other. -/
  | release
  deriving DecidableEq

/-- Lets workers go on, in order. -/
def releaseAll (s : SessionState) : List Nat → Session SessionState
  | [] => return s
  | index :: rest => do
    match s.launches[index]? with
    | none => releaseAll s rest
    | some l => releaseAll (s.replace index (← l.release)) rest

/-- A step on the launches, with the number of workers let go. -/
def LaunchStep.perform (s : SessionState) : LaunchStep → Session (SessionState × Nat)
  | .make command => return ({ s.add { command } with own := some s.launches.length }, 0)
  | .start timeout =>
    match s.handled? with
    | none => return (s, 0)
    | some (index, l) => do return (s.replace index (← l.start timeout), 0)
  | .abandon =>
    match s.handled? with
    | none => return (s, 0)
    | some (index, l) => return (s.replace index l.abandon, 0)
  | .release => do return (← releaseAll { s with held := [] } s.held, s.held.length)

/-! ## 4. Sessions -/

/-- A step of a session. -/
inductive SessionStep where
  | operation (o : Operation)
  /-- A run of reports of which only the metrics are wanted. -/
  | metrics (record : String) (processes : List (String × String)) (wanted : List String)
  | launch (step : LaunchStep)
  deriving DecidableEq

/-- What a step ends with. -/
inductive StepResult where
  | operation (result : Except Fault OperationResult)
  | metrics (result : Except Fault Metrics)
  /-- The number of workers let go. -/
  | released (n : Nat)

/-- A step of a session with its result, and the launches after it. -/
def SessionStep.perform (config : SamplerConfig) (s : SessionState) :
    SessionStep → Session (SessionState × StepResult)
  | .operation o => do
    let (s', result) ← o.perform config s
    return (s', .operation result)
  | .metrics record processes wanted => do
    return (s, .metrics (← (Session.reportMetrics config record processes wanted).attempt))
  | .launch step => do
    let (s', n) ← step.perform s
    return (s', .released n)

/-- The steps of a session, with the result of each. -/
def performSession (config : SamplerConfig) (s : SessionState) :
    List SessionStep → Session (SessionState × List StepResult)
  | [] => return (s, [])
  | step :: rest => do
    let (s', result) ← step.perform config s
    let (s'', results) ← performSession config s' rest
    return (s'', result :: results)

end DeviceSampling
