/-
# Configuration files

A configuration is read from a file in YAML or JSON; the ending of its name says which.  The file
is read before its format is looked at.

* `Config.load` reads a file, or says why there is no configuration in it;
* a YAML file whose value is empty in any way is the configuration of all defaults, a JSON file
  must hold a mapping.
-/
import DeviceSampling.Config.Read
import DeviceSampling.Host.Tree
import DeviceSampling.Json.Reader
import DeviceSampling.Text.Utf8
import DeviceSampling.Yaml.Reader

namespace DeviceSampling

/-! ## 1. Faults -/

/-- Why there is no configuration in a file. -/
inductive ConfigFileFault where
  | notFound (path : HostPath)
  | tooLong (path : HostPath)
  /-- The user has no permission to read the file, or to enter a directory on the way. -/
  | denied (path : HostPath)
  | isDirectory (path : HostPath)
  /-- The bytes are not UTF-8. -/
  | notText (fault : Text.Utf8.Fault)
  /-- The name does not end as that of a YAML or JSON file. -/
  | unknownFormat (path : HostPath)
  /-- The text is not JSON. -/
  | json (text : List Char) (fault : Json.ReadFault)
  /-- The text is not YAML. -/
  | yaml (fault : Yaml.ReadFault)
  | notMapping (path : HostPath)
  /-- The mapping is no configuration. -/
  | config (path : HostPath) (fault : ConfigFault)

/-- The message of a fault.  A path stands in it in its plain form. -/
def ConfigFileFault.message : ConfigFileFault → String
  | .notFound path => path.text
  | .tooLong path => FileTree.tooLongMessage path
  | .denied path => FileTree.deniedMessage path
  | .isDirectory path => "[Errno 21] Is a directory: " ++ Text.quote path.text
  | .notText fault => fault.message
  | .unknownFormat path => "Collector config must be .yaml, .yml or .json: " ++ path.text
  | .json text fault => fault.message text
  | .yaml fault => fault.message
  | .notMapping path => "Collector config must be a mapping: " ++ path.text
  | .config path (.invalid violations) =>
    "Invalid collector config " ++ path.text ++ ":\n" ++ (ConfigFault.invalid violations).message
  | .config _ fault => fault.message

/-! ## 2. Formats -/

/-- The format of a configuration file. -/
inductive ConfigFormat where
  | yaml
  | json
  deriving DecidableEq, Repr

/-- The format that the ending of a name stands for, in any case. -/
def ConfigFormat.ofPath? (p : HostPath) : Option ConfigFormat :=
  let ending := String.ofList (p.suffix.toList.map Char.toLower)
  if ending = ".yaml" ∨ ending = ".yml" then some .yaml
  else if ending = ".json" then some .json
  else none

/-- Whether a value is empty: null, false, zero, or nothing in it. -/
def Value.isEmptyValue : Value → Bool
  | .null | .text "" | .bytes [] | .list [] | .set [] | .mapping [] => true
  | .bool b => !b
  | .int n => n = 0
  | .double x => x.le Binary64.zero && Binary64.zero.le x
  | _ => false

/-- Decodes the text of a configuration file.  An empty YAML value counts as an empty mapping. -/
def ConfigFormat.decode (format : ConfigFormat) (text : List Char) :
    Except ConfigFileFault Value :=
  match format with
  | .json =>
    match Json.readChars text with
    | .ok v => .ok v
    | .error fault => .error (.json text fault)
  | .yaml =>
    match Yaml.readChars text with
    | .ok v => .ok (if v.isEmptyValue then .mapping [] else v)
    | .error fault => .error (.yaml fault)

/-! ## 3. Loading -/

/-- The text of a file, with line feeds at the ends of its lines. -/
def FileTree.readText (t : FileTree) (p : HostPath) : Except ConfigFileFault (List Char) :=
  match t.resolve p with
  | .file _ content =>
    match Text.Utf8.decode content with
    | .ok cs => .ok (Text.unifyBreaks cs)
    | .error fault => .error (.notText fault)
  | .directory _ => .error (.isDirectory p)
  | .closedDirectory _ | .closedFile _ | .throughClosed => .error (.denied p)
  | .tooLong => .error (.tooLong p)
  | .vacant _ | .missing | .throughFile | .noPath => .error (.notFound p)

/-- The configuration that a decoded value holds. -/
def Config.ofValue (p : HostPath) : Value → Except ConfigFileFault Config
  | .mapping entries =>
    match Config.ofEntries entries with
    | .ok c => .ok c
    | .error fault => .error (.config p fault)
  | _ => .error (.notMapping p)

/-- Loads a configuration file. -/
def Config.load (t : FileTree) (p : HostPath) : Except ConfigFileFault Config := do
  let text ← t.readText p
  match ConfigFormat.ofPath? p with
  | none => throw (.unknownFormat p)
  | some format => Config.ofValue p (← format.decode text)

end DeviceSampling
