/-
# Log records

What a run tells about itself: a severity, the part of the program that speaks, and a message.

* `LogRecord.line` is the form in which a record is printed.
-/
namespace DeviceSampling

/-- The severity of a record. -/
inductive Severity where
  | debug
  | info
  | warning
  | error
  deriving DecidableEq, Repr

/-- The name of a severity. -/
def Severity.name : Severity → String
  | .debug => "DEBUG"
  | .info => "INFO"
  | .warning => "WARNING"
  | .error => "ERROR"

/-- The part of the program that speaks. -/
inductive LogSource where
  | polling
  | controller
  | report
  | session
  | commandLine
  deriving DecidableEq, Repr

/-- The name under which a part speaks. -/
def LogSource.name : LogSource → String
  | .polling => "collectors_helper.runtime.polling"
  | .controller => "collectors_helper.runtime.android.controller"
  | .report => "collectors_helper.simpleperf.report"
  | .session => "collectors_helper.simpleperf.helper"
  | .commandLine => "collectors_helper.cli.simpleperf_collect"

/-- A record. -/
structure LogRecord where
  severity : Severity
  source : LogSource
  message : String
  deriving DecidableEq, Repr

/-- The printed form of a record. -/
def LogRecord.line (r : LogRecord) : String :=
  "[" ++ r.severity.name ++ "] " ++ r.source.name ++ ": " ++ r.message

end DeviceSampling
