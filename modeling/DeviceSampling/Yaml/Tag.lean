/-
# Tags

A tag says what a node stands for.  A plain scalar without a tag has the one that its spelling
shows; spellings of numbers are those of YAML 1.1, where a double needs a point and its exponent
a sign, a leading zero means octal, and colons separate places of base sixty.

* `Tag.ofText` reads a full tag, `Tag.ofPlain` the spelling of a plain scalar.
-/
import DeviceSampling.Yaml.Timestamp

namespace DeviceSampling
namespace Yaml

/-- What a node stands for. -/
inductive Tag where
  | null
  | bool
  | int
  | float
  | binary
  | timestamp
  | text
  | sequence
  | mapping
  | set
  | pairs
  | orderedMapping
  /-- The key under which other mappings are merged in. -/
  | merge
  /-- The key of the value that a mapping stands for. -/
  | value
  | unknown
  deriving DecidableEq, Repr

/-- The last word of a standard tag. -/
def Tag.names : List (String × Tag) :=
  [("null", .null), ("bool", .bool), ("int", .int), ("float", .float), ("binary", .binary),
    ("timestamp", .timestamp), ("str", .text), ("seq", .sequence), ("map", .mapping),
    ("set", .set), ("pairs", .pairs), ("omap", .orderedMapping), ("merge", .merge),
    ("value", .value)]

/-- What the standard tags begin with. -/
def standardStem : String := "tag:yaml.org,2002:"

/-- Reads a full tag. -/
def Tag.ofText (s : String) : Tag :=
  ((Tag.names.find? fun n => standardStem ++ n.1 = s).map (·.2)).getD .unknown

/-! ## Spellings of plain scalars -/

namespace Spelling

/-- The spellings of the truth values. -/
def truthValues : List String :=
  ["yes", "Yes", "YES", "no", "No", "NO", "true", "True", "TRUE", "false", "False", "FALSE",
    "on", "On", "ON", "off", "Off", "OFF"]

/-- The spellings of null. -/
def nulls : List String := ["", "~", "null", "Null", "NULL"]

/-- What follows a sign, if there is one. -/
def unsigned : List Char → List Char
  | '+' :: rest => rest
  | '-' :: rest => rest
  | cs => cs

/-- Whether the character is a digit or an underscore. -/
def isLoose (c : Char) : Bool := c.isDigit || c = '_'

/-- Whether the text is a digit, followed by digits and underscores. -/
def isLooseNumber : List Char → Bool
  | [] => false
  | c :: rest => c.isDigit && rest.all isLoose

/-- Whether the text is a place of base sixty. -/
def isSexagesimalPlace : List Char → Bool
  | [c] => c.isDigit
  | [c, d] => '0' ≤ c && c ≤ '5' && d.isDigit
  | _ => false

/-- The pieces between colons. -/
def colonPieces : List Char → List (List Char)
  | [] => [[]]
  | c :: rest =>
    if c = ':' then [] :: colonPieces rest
    else match colonPieces rest with
      | [] => [[c]]
      | p :: ps => (c :: p) :: ps

/-- Whether the text is a number in places of base sixty, two places at least. -/
def isSexagesimal (cs : List Char) : Bool :=
  match colonPieces cs with
  | first :: place :: places => isLooseNumber first && (place :: places).all isSexagesimalPlace
  | _ => false

/-- Whether the text is an exponent with a sign, or nothing. -/
def isSignedExponent : List Char → Bool
  | [] => true
  | e :: sign :: digits =>
    (e = 'e' || e = 'E') && (sign = '+' || sign = '-') && !digits.isEmpty && digits.all Char.isDigit
  | _ => false

/-- Whether the text is the spelling of a double. -/
def isDouble (cs : List Char) : Bool :=
  let body := unsigned cs
  let whole := body.takeWhile (· ≠ '.')
  match cs, body.dropWhile (· ≠ '.') with
  | '.' :: rest, _ =>
    String.ofList rest ∈ ["inf", "Inf", "INF", "nan", "NaN", "NAN"] ||
      (isLooseNumber (rest.takeWhile isLoose) && isSignedExponent (rest.dropWhile isLoose))
  | _, '.' :: rest =>
    (whole.isEmpty && String.ofList rest ∈ ["inf", "Inf", "INF"]) ||
      (isLooseNumber whole && isSignedExponent (rest.dropWhile isLoose)) ||
      (isSexagesimal whole && rest.all isLoose)
  | _, _ => false

/-- Whether the text is the spelling of an integer. -/
def isInteger (cs : List Char) : Bool :=
  let body := unsigned cs
  match body with
  | ['0'] => true
  | '0' :: 'b' :: rest => !rest.isEmpty && rest.all fun c => c = '0' || c = '1' || c = '_'
  | '0' :: 'x' :: rest => !rest.isEmpty && rest.all fun c => (Text.hexValue? c).isSome || c = '_'
  | '0' :: rest => rest.all fun c => ('0' ≤ c && c ≤ '7') || c = '_'
  | _ => isLooseNumber body || isSexagesimal body

/-- Whether the text is the spelling of a timestamp: a date in full, or a date and a time. -/
def isTimestamp (cs : List Char) : Bool :=
  match WrittenTime.ofChars? cs with
  | none => false
  | some w => w.time.isSome || cs.length = 10

end Spelling

/-- The tag of a plain scalar.  A line feed at the end does not count. -/
def Tag.ofPlain (text : String) : Tag :=
  let cs := match text.toList.reverse with
    | '\n' :: rest => rest.reverse
    | _ => text.toList
  let s := String.ofList cs
  if s ∈ Spelling.truthValues then .bool
  else if Spelling.isDouble cs then .float
  else if Spelling.isInteger cs then .int
  else if s = "<<" then .merge
  else if s ∈ Spelling.nulls ∧ text ≠ "\n" then .null
  else if Spelling.isTimestamp cs then .timestamp
  else if s = "=" then .value
  else if s ∈ ["!", "&", "*"] then .unknown
  else .text

end Yaml
end DeviceSampling
