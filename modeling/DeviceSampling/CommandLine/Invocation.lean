/-
# Invocations

What a command line asks for: where the settings come from, how to reach the device, and one
command with its arguments.

* `Invocation.ofWords` reads a command line; the environment has defaults for the program of the
  bridge and for the device;
* the options of the program stand before the command, those of a command after it.
-/
import DeviceSampling.CommandLine.Grammar
import DeviceSampling.Host.Path
import DeviceSampling.Number.Numeral

namespace DeviceSampling
namespace CommandLine

/-! ## 1. What may be asked for -/

/-- The defaults that the environment has. -/
structure Environment where
  serial : Option String := none
  adbPath : Option String := none
  deriving DecidableEq, Repr

/-- One sampling session. -/
structure RecordRequest where
  subcommand : String := "record"
  arguments : String := ""
  /-- Where on the device the record goes. -/
  destination : String
  /-- For how many seconds to sample. -/
  duration : Binary64 := .ofNat 10
  /-- Where on the host the record goes, if it is to be copied. -/
  pull : Option HostPath := none
  deriving DecidableEq

/-- Figures from a record. -/
structure ReportRequest where
  /-- Where on the device the record is. -/
  record : String
  processes : List String
  symbols : List String := []
  deriving DecidableEq, Repr

/-- A command of the program. -/
inductive Command where
  | status
  | processIds (process : String)
  | record (request : RecordRequest)
  | report (request : ReportRequest)
  deriving DecidableEq

/-- All that a command line asks for. -/
structure Invocation where
  /-- The configuration file. -/
  config : Option HostPath := none
  serial : Option String := none
  adbPath : Option String := none
  /-- Whether to tell details. -/
  verbose : Bool := false
  command : Command
  deriving DecidableEq

/-! ## 2. Options -/

/-- The options of the program and its commands. -/
inductive OptionKey where
  | help
  | config
  | serial
  | adbPath
  | verbose
  | subcommand
  | arguments
  | destination
  | duration
  | pull
  | record
  | process
  | symbol
  deriving DecidableEq, Repr

/-- The option for help. -/
def helpRule : OptionRule OptionKey :=
  { spellings := ["-h", "--help"], key := .help, kind := .help }

/-- What is wrong with the text of a duration. -/
def durationProblem (text : String) : Option UsageFault :=
  match Numeral.readDouble text with
  | .ok _ => none
  | .error _ => some (.notNumber "--duration" text)

/-- The grammar in front of a command. -/
def mainGrammar : Grammar OptionKey where
  options :=
    [helpRule, { spellings := ["--config"], key := .config },
      { spellings := ["--serial"], key := .serial },
      { spellings := ["--adb_path"], key := .adbPath },
      { spellings := ["--verbose"], key := .verbose, kind := .flag }]
  operands := .command "cmd"

/-- The grammar after the command for the state of the sampler. -/
def statusGrammar : Grammar OptionKey where
  options := [helpRule]

/-- The grammar after the command for the ids of a process. -/
def processIdsGrammar : Grammar OptionKey where
  options := [helpRule]
  operands := .one "process"

/-- The grammar after the command for a sampling session. -/
def recordGrammar : Grammar OptionKey where
  options :=
    [helpRule, { spellings := ["--subcommand"], key := .subcommand },
      { spellings := ["--args"], key := .arguments },
      { spellings := ["--dest"], key := .destination, required := true },
      { spellings := ["--duration"], key := .duration, problem := durationProblem },
      { spellings := ["--pull"], key := .pull }]

/-- The grammar after the command for figures. -/
def reportGrammar : Grammar OptionKey where
  options :=
    [helpRule, { spellings := ["--record"], key := .record, required := true },
      { spellings := ["--process"], key := .process, required := true },
      { spellings := ["--symbol"], key := .symbol }]

/-! ## 3. Reading -/

/-- A text as a double; the grammar has let none but doubles through. -/
def asDuration (text : String) : Binary64 :=
  match Numeral.readDouble text with
  | .ok x => x
  | .error _ => .zero

/-- The names of the commands. -/
def commandNames : List String := ["status", "pid", "record", "report"]

/-- A sampling session, from the options found. -/
def RecordRequest.ofFindings (found : Findings OptionKey) : RecordRequest :=
  let default : RecordRequest := { destination := "" }
  { subcommand := (found.last? .subcommand).getD default.subcommand
    arguments := (found.last? .arguments).getD default.arguments
    destination := (found.last? .destination).getD default.destination
    duration := ((found.last? .duration).map asDuration).getD default.duration
    pull := (found.last? .pull).map HostPath.ofText }

/-- Figures, from the options found. -/
def ReportRequest.ofFindings (found : Findings OptionKey) : ReportRequest :=
  { record := (found.last? .record).getD ""
    processes := found.all .process
    symbols := found.all .symbol }

/-- Reads a command with the words after it: the command, and the words left over. -/
def Command.ofWords (name : String) (words : List String) :
    Except Stop (Command × List String) :=
  match name with
  | "status" => do
    let found ← scan statusGrammar words
    return (.status, found.leftOver)
  | "pid" => do
    let found ← scan processIdsGrammar words
    return (.processIds ((found.operands.getD []).headD ""), found.leftOver)
  | "record" => do
    let found ← scan recordGrammar words
    return (.record (.ofFindings found), found.leftOver)
  | "report" => do
    let found ← scan reportGrammar words
    return (.report (.ofFindings found), found.leftOver)
  | _ => .error (.fault (.badChoice "cmd" name commandNames))

/-- Reads a command line. -/
def Invocation.ofWords (environment : Environment) (words : List String) :
    Except Stop Invocation := do
  let found ← scan mainGrammar words
  let operands := found.operands.getD []
  let (command, leftOver) ← Command.ofWords (operands.headD "") operands.tail
  let allLeftOver := found.leftOver ++ leftOver
  if !allLeftOver.isEmpty then throw (.fault (.leftOver allLeftOver))
  return {
    config := (found.last? .config).map HostPath.ofText
    serial := found.last? .serial <|> environment.serial
    adbPath := found.last? .adbPath <|> environment.adbPath
    verbose := (found.last? .verbose).isSome
    command }

end CommandLine
end DeviceSampling
