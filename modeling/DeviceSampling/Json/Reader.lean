/-
# Reading JSON

The tokens of a text drive a machine with a stack: what is open around the place reached, and
what may come next.  The machine takes one token at a step, so it ends with the tokens.

* `Json.read` decodes a text; a name that comes again in an object keeps its place and takes the
  last value;
* `ReadFault.message` gives cause and place: line, column and number of characters before it.

The stack has no limit, where a reader that calls itself for each bracket breaks off on a text that
nests too deep.
-/
import DeviceSampling.Json.Token
import DeviceSampling.Number.Numeral

namespace DeviceSampling
namespace Json

/-! ## 1. Faults -/

/-- Why a text is not JSON. -/
inductive SyntaxFault where
  | byteOrderMark
  | expectingValue
  | expectingName
  | expectingColon
  | expectingComma
  | extraData
  | text (fault : TextFault)
  deriving DecidableEq, Repr

/-- The wording of a syntax fault. -/
def SyntaxFault.wording : SyntaxFault → String
  | .byteOrderMark => "Unexpected UTF-8 BOM (decode using utf-8-sig)"
  | .expectingValue => "Expecting value"
  | .expectingName => "Expecting property name enclosed in double quotes"
  | .expectingColon => "Expecting ':' delimiter"
  | .expectingComma => "Expecting ',' delimiter"
  | .extraData => "Extra data"
  | .text .unterminated => "Unterminated string starting at"
  | .text .controlCharacter => "Invalid control character at"
  | .text .badEscape => "Invalid \\escape"
  | .text .badUnicodeEscape => "Invalid \\uXXXX escape"

/-- Why a text cannot be decoded. -/
inductive ReadFault where
  /-- Not JSON, at a place with so many characters before it. -/
  | notJson (fault : SyntaxFault) (position : Nat)
  /-- An integer with too many digits. -/
  | integer (fault : Numeral.IntegerFault)
  deriving DecidableEq, Repr

/-- A place in words: line and column count from one, characters from zero. -/
def placeText (cs : List Char) (position : Nat) : String :=
  let before := cs.take position
  let column := (before.reverse.takeWhile (· ≠ '\n')).length + 1
  "line " ++ toString (before.count '\n' + 1) ++ " column " ++ toString column ++
    " (char " ++ toString position ++ ")"

/-- The message of a fault in a text. -/
def ReadFault.message (cs : List Char) : ReadFault → String
  | .notJson fault position => fault.wording ++ ": " ++ placeText cs position
  | .integer fault => fault.message

/-! ## 2. The machine -/

/-- What is open around a value. -/
inductive Frame where
  /-- A list, its items so far last first. -/
  | list (items : List Value)
  /-- An object, its entries so far and the name that the value is for. -/
  | object (entries : List (Value × Value)) (name : String)

/-- What may come next. -/
inductive Mode where
  /-- A value. -/
  | value
  /-- A value or the end of the list just opened. -/
  | firstItem
  /-- A name or the end of the object just opened. -/
  | firstName
  /-- A name, after a comma. -/
  | name (entries : List (Value × Value))
  /-- The colon after a name. -/
  | colon (entries : List (Value × Value)) (name : String)
  /-- A comma or the end of what is open, after a value. -/
  | after (v : Value)

/-- The value of a token that is a value of its own. -/
def Token.value? : Token → Except ReadFault (Option Value)
  | .text s => .ok (some (.text s))
  | .name v => .ok (some v)
  | .integer ds =>
    match Numeral.readInteger (String.ofList ds) with
    | .ok n => .ok (some (.int n))
    | .error e => .error (.integer e)
  | .double ds =>
    match Numeral.readDouble (String.ofList ds) with
    | .ok x => .ok (some (.double x))
    | .error _ => .ok none
  | _ => .ok none

/-- A token where a value must come; `position` is the place of a number of characters left. -/
def stepValue (position : Nat → Nat) (stack : List Frame) (t : PlacedToken) :
    Except ReadFault (Mode × List Frame) :=
  match t.token with
  | .mark '[' => .ok (.firstItem, stack)
  | .mark '\x7b' => .ok (.firstName, stack)
  | .badText fault left => .error (.notJson (.text fault) (position left))
  | token =>
    match token.value? with
    | .ok (some v) => .ok (.after v, stack)
    | .ok none => .error (.notJson .expectingValue (position t.left))
    | .error e => .error e

/-- A token where a name must come. -/
def stepName (position : Nat → Nat) (entries : List (Value × Value)) (stack : List Frame)
    (t : PlacedToken) : Except ReadFault (Mode × List Frame) :=
  match t.token with
  | .text s => .ok (.colon entries s, stack)
  | .badText fault left => .error (.notJson (.text fault) (position left))
  | _ => .error (.notJson .expectingName (position t.left))

/-- One step of the machine. -/
def step (position : Nat → Nat) (mode : Mode) (stack : List Frame) (t : PlacedToken) :
    Except ReadFault (Mode × List Frame) :=
  match mode with
  | .value => stepValue position stack t
  | .firstItem =>
    match t.token with
    | .mark ']' => .ok (.after (.list []), stack)
    | _ => stepValue position (.list [] :: stack) t
  | .firstName =>
    match t.token with
    | .mark '\x7d' => .ok (.after (.mapping []), stack)
    | _ => stepName position [] stack t
  | .name entries => stepName position entries stack t
  | .colon entries name =>
    match t.token with
    | .mark ':' => .ok (.value, .object entries name :: stack)
    | _ => .error (.notJson .expectingColon (position t.left))
  | .after v =>
    match stack with
    | [] => .error (.notJson .extraData (position t.left))
    | .list items :: outer =>
      match t.token with
      | .mark ']' => .ok (.after (.list (v :: items).reverse), outer)
      | .mark ',' => .ok (.value, .list (v :: items) :: outer)
      | _ => .error (.notJson .expectingComma (position t.left))
    | .object entries name :: outer =>
      match t.token with
      | .mark '\x7d' => .ok (.after (.mapping (Value.put (.text name) v entries)), outer)
      | .mark ',' => .ok (.name (Value.put (.text name) v entries), outer)
      | _ => .error (.notJson .expectingComma (position t.left))

/-- What is missing at the end of the tokens. -/
def atEnd (position : Nat) (mode : Mode) (stack : List Frame) : Except ReadFault Value :=
  match mode, stack with
  | .after v, [] => .ok v
  | .after _, _ :: _ => .error (.notJson .expectingComma position)
  | .value, _ | .firstItem, _ => .error (.notJson .expectingValue position)
  | .firstName, _ | .name _, _ => .error (.notJson .expectingName position)
  | .colon .., _ => .error (.notJson .expectingColon position)

/-- Runs the machine over the tokens of a text of the given length. -/
def run (total : Nat) (mode : Mode) (stack : List Frame) :
    List PlacedToken → Except ReadFault Value
  | [] => atEnd total mode stack
  | t :: rest =>
    match step (total - ·) mode stack t with
    | .ok (mode', stack') => run total mode' stack' rest
    | .error e => .error e

/-- Decodes a text. -/
def readChars (cs : List Char) : Except ReadFault Value :=
  if cs.head? = some '\uFEFF' then .error (.notJson .byteOrderMark 0)
  else run cs.length .value [] (tokens cs)

/-- Decodes a text. -/
def read (text : String) : Except ReadFault Value := readChars text.toList

end Json
end DeviceSampling
