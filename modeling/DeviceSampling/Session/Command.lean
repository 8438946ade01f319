/-
# The commands of a session

The text of every command that a session issues.  Paths, process names and process ids are quoted
arguments; the binary, the subcommand and its arguments are given as the user wrote them.
-/
import DeviceSampling.Config.Basic
import DeviceSampling.Shell.DevicePath
import DeviceSampling.Shell.Word
import DeviceSampling.Text.Blank

namespace DeviceSampling

open Shell

namespace SamplerConfig

/-- The name under which the sampler runs: that of the binary, without its path. -/
def processName (c : SamplerConfig) : String := baseName c.binary

/-- Starts the sampler. -/
def startCommand (c : SamplerConfig) (subcommand arguments : String) : String :=
  Text.strip (c.binary ++ " " ++ subcommand ++ " -o " ++ quoteWord c.recordPath ++ " " ++ arguments)

/-- Tells the sampler to end. -/
def interruptCommand (c : SamplerConfig) : String := "pkill -INT " ++ c.processName

/-- Shows the ids under which the sampler runs. -/
def runningCommand (c : SamplerConfig) : String := "pidof " ++ c.processName

/-- Moves the record to its destination. -/
def moveCommand (c : SamplerConfig) (destination : String) : String :=
  "mv " ++ quoteWord c.recordPath ++ " " ++ quoteWord destination

/-- The process ids of a text, joined by commas. -/
def joinedIds (pids : String) : String :=
  String.ofList (List.intercalate [','] (Text.words pids.toList))

/-- Where the report of a record is written. -/
def reportPath (record : String) : String := record ++ ".txt"

/-- Writes the report of a record for the given process ids. -/
def reportCommand (c : SamplerConfig) (record pids : String) : String :=
  c.binary ++ " report -i " ++ quoteWord record ++ " --pids " ++ quoteWord (joinedIds pids) ++
    " --sort pid,symbol -o " ++ quoteWord (reportPath record)

end SamplerConfig

/-- Shows the ids of a process. -/
def lookUpCommand (process : String) : String := "pidof " ++ quoteWord process

/-- Makes a directory and those above it. -/
def makeDirectoryCommand (path : String) : String := "mkdir -p " ++ quoteWord path

/-- Shows a file. -/
def readCommand (path : String) : String := "cat " ++ quoteWord path

end DeviceSampling
