/-
# Reading a configuration

A configuration is read from the entries of a mapping.  What violates the schema is reported all
together; what is left out has its default.

* `Config.ofEntries` reads a configuration, or says why there is none.  A violation can quote a value
  of any depth here, see `Value.shown`;
* `ConfigFault.message` has a line for every violation.
-/
import DeviceSampling.Config.Basic
import DeviceSampling.Config.Schema

namespace DeviceSampling

/-! ## 1. Faults -/

/-- Why a mapping is no configuration. -/
inductive ConfigFault where
  | invalid (violations : List Violation)
  /-- A message would quote an integer with too many digits. -/
  | overlongQuote
  /-- An integer stands where a double is needed, and is beyond the doubles. -/
  | integerTooLarge
  | policy (fault : PolicyFault)

/-- The message of a configuration fault. -/
def ConfigFault.message : ConfigFault → String
  | .invalid violations => "\n".intercalate (violations.map Violation.line)
  | .overlongQuote =>
    "Exceeds the limit (4300 digits) for integer string conversion; " ++
      "use sys.set_int_max_str_digits() to increase the limit"
  | .integerTooLarge => Fault.integerTooLarge.message
  | .policy fault => fault.message

/-! ## 2. Fields -/

/-- The text under a name. -/
def textField (entries : List (Value × Value)) (name default : String) : String :=
  match Value.lookup name entries with
  | some (.text s) => s
  | _ => default

/-- A value as a number. -/
def Value.quantity? : Value → Option Quantity
  | .int n => some (.int n)
  | .double x => some (.double x)
  | _ => none

/-- A value as an integer; a double without a fraction is one. -/
def Value.integer? : Value → Option Int
  | .int n => some n
  | .double x => if x.isWhole then x.truncate.toOption else none
  | _ => none

/-- The entries of the mapping under a name; none if there is nothing under it. -/
def sectionEntries (entries : List (Value × Value)) (name : String) : List (Value × Value) :=
  ((Value.lookup name entries).bind Value.entries?).getD []

/-- The polling policy under a name.  What a policy leaves out has the default's number. -/
def policyField (entries : List (Value × Value)) (name : String) (default : PollingPolicy) :
    Except ConfigFault PollingPolicy :=
  let own := sectionEntries entries name
  if own.isEmpty then .ok default
  else
    let retries := ((Value.lookup "max_retries" own).bind Value.integer?).getD default.maxRetries
    let delay := ((Value.lookup "delay_s" own).bind Value.quantity?).getD (.double default.delay)
    match delay.toDouble? with
    | none => .error .integerTooLarge
    | some d =>
      match PollingPolicy.make retries d with
      | .ok p => .ok p
      | .error fault => .error (.policy fault)

/-! ## 3. Sections -/

/-- The section on the bridge. -/
def AdbConfig.ofEntries (entries : List (Value × Value)) : AdbConfig where
  adbPath := textField entries "adb_path" "adb"
  serial := match Value.lookup "serial" entries with
    | some (.text s) => some s
    | _ => none
  timeout := ((Value.lookup "timeout_s" entries).bind Value.quantity?).getD
    ({} : AdbConfig).timeout

/-- The section on the sampler. -/
def SamplerConfig.ofEntries (entries : List (Value × Value)) :
    Except ConfigFault SamplerConfig := do
  let default : SamplerConfig := {}
  let startWait ← policyField entries "start_wait" default.startWait
  let stopWait ← policyField entries "stop_wait" default.stopWait
  return {
    binary := textField entries "binary" default.binary
    recordPath := textField entries "tmp_output_path" default.recordPath
    recordTimeout := (Value.lookup "record_timeout_s" entries).bind Value.quantity?
    startWait, stopWait }

/-- The configuration in the entries of a mapping. -/
def Config.ofEntries (entries : List (Value × Value)) : Except ConfigFault Config :=
  let violations := configViolations (.mapping entries)
  if violations.any fun v => v.problem.overlong then .error .overlongQuote
  else if !violations.isEmpty then .error (.invalid violations)
  else do
    let sampler ← SamplerConfig.ofEntries (sectionEntries entries "simpleperf")
    return ⟨AdbConfig.ofEntries (sectionEntries entries "adb"), sampler⟩

end DeviceSampling
