/-
# Decoded values

What a JSON or YAML document decodes to.  JSON yields null, truth values, numbers, text, lists
and mappings with text keys; YAML adds dates, bytes, sets, ordered pairs and keys of any scalar
kind.

* `Value.sameKey` is equality of mapping keys: numbers and truth values compare by value, and
  timestamps by moment;
* `Value.put` writes an entry of a mapping, so that a key that comes again keeps its place and
  takes the last value;
* `Value.shown` is the text of a value in messages, however deep the value is.  An interpreter with a
  limit on recursion shows none that is about a thousand levels deep.
-/
import DeviceSampling.Document.Calendar
import DeviceSampling.Number.Numeral
import DeviceSampling.Number.Shortest
import DeviceSampling.Text.Quoted

namespace DeviceSampling

/-! ## 1. The values -/

/-- A decoded value. -/
inductive Value where
  | null
  | bool (b : Bool)
  | int (n : Int)
  | double (x : Binary64)
  | text (s : String)
  | date (d : Date)
  | timestamp (t : Timestamp)
  | bytes (bs : List UInt8)
  | list (items : List Value)
  | pair (first second : Value)
  | set (members : List Value)
  | mapping (entries : List (Value × Value))
  /-- A list or mapping inside itself. -/
  | cycle (isMapping : Bool)

instance : Inhabited Value := ⟨.null⟩

namespace Value

/-! ## 2. Keys -/

/-- The number that a value counts as when keys are compared. -/
def asNumber? : Value → Option (Int ⊕ Binary64)
  | bool b => some (.inl (if b then 1 else 0))
  | int n => some (.inl n)
  | double x => some (.inr x)
  | _ => none

/-- Whether an integer and a double have the same value. -/
def intEqDouble (n : Int) : Binary64 → Bool
  | .finite s u _ => Binary64.signedUnits s u = n * Binary64.unitsPerOne
  | _ => false

/-- Whether two doubles are the same key: zeros of either sign are, and so is not-a-number with
itself. -/
def sameDouble (x y : Binary64) : Bool := x = y || x.le y && y.le x

/-- Whether two values are the same key. -/
def sameKey : Value → Value → Bool
  | null, null => true
  | text s, text t => s = t
  | date d, date e => d = e
  | timestamp t, timestamp u => t.sameMoment u
  | bytes a, bytes b => a = b
  | a, b =>
    match a.asNumber?, b.asNumber? with
    | some (.inl m), some (.inl n) => m = n
    | some (.inl m), some (.inr y) => intEqDouble m y
    | some (.inr x), some (.inl n) => intEqDouble n x
    | some (.inr x), some (.inr y) => sameDouble x y
    | _, _ => false

/-- Writes an entry of a mapping. -/
def put (key value : Value) : List (Value × Value) → List (Value × Value)
  | [] => [(key, value)]
  | (k, v) :: rest => if k.sameKey key then (k, value) :: rest else (k, v) :: put key value rest

/-- The value under a text key. -/
def lookup (name : String) : List (Value × Value) → Option Value
  | [] => none
  | (text k, v) :: rest => if k = name then some v else lookup name rest
  | _ :: rest => lookup name rest

/-! ## 3. The text of a value -/

/-- A number with at least `width` digits. -/
def paddedDecimal (width n : Nat) : List Char :=
  let ds := Nat.toDigits 10 n
  List.replicate (width - ds.length) '0' ++ ds

/-- One byte between quotes of the given kind. -/
def escapeByte (delimiter : Char) (b : UInt8) : List Char :=
  let c := Char.ofNat b.toNat
  if c = delimiter ∨ c = '\\' then ['\\', c]
  else if c = '\t' then ['\\', 't']
  else if c = '\n' then ['\\', 'n']
  else if c = '\r' then ['\\', 'r']
  else if 0x20 ≤ b.toNat ∧ b.toNat < 0x7F then [c]
  else '\\' :: 'x' :: Text.hexDigits 2 b.toNat

/-- The text of bytes. -/
def bytesChars (bs : List UInt8) : List Char :=
  let delimiter := Text.delimiterOf (bs.map fun b => Char.ofNat b.toNat)
  'b' :: delimiter :: (bs.flatMap (escapeByte delimiter) ++ [delimiter])

/-- Numbers joined by commas. -/
def commaJoined (parts : List (List Char)) : List Char := List.intercalate [',', ' '] parts

/-- A number in decimal. -/
def decimalChars (n : Int) : List Char := (toString n).toList

/-- The text of a date. -/
def dateChars (d : Date) : List Char :=
  "datetime.date(".toList ++
    commaJoined ([d.year, d.month, d.day].map fun (n : Nat) => decimalChars n) ++ [')']

/-- The text of a span of time that is not zero, in days and seconds. -/
def spanChars (minutes : Int) : List Char :=
  let days := Int.fdiv minutes 1440
  let seconds := Int.fmod minutes 1440 * 60
  let parts := (if days = 0 then [] else ["days=".toList ++ decimalChars days]) ++
    (if seconds = 0 then [] else ["seconds=".toList ++ decimalChars seconds])
  "datetime.timedelta(".toList ++ commaJoined parts ++ [')']

/-- The text of an offset from universal time. -/
def offsetChars (minutes : Int) : List Char :=
  if minutes = 0 then "datetime.timezone.utc".toList
  else "datetime.timezone(".toList ++ spanChars minutes ++ [')']

/-- The text of a timestamp; seconds and fractions of zero are left out at the end. -/
def timestampChars (t : Timestamp) : List Char :=
  let tail := if t.microsecond ≠ 0 then [t.second, t.microsecond]
    else if t.second ≠ 0 then [t.second] else []
  let numbers := [t.date.year, t.date.month, t.date.day, t.hour, t.minute] ++ tail
  let zone := match t.offset with
    | none => []
    | some m => ["tzinfo=".toList ++ offsetChars m]
  "datetime.datetime(".toList ++
    commaJoined (numbers.map (fun (n : Nat) => decimalChars n) ++ zone) ++ [')']

mutual

/-- The text of a value. -/
def chars : Value → List Char
  | null => "None".toList
  | bool b => if b then "True".toList else "False".toList
  | int n => decimalChars n
  | double x => x.toText.toList
  | text s => Text.quoteChars s.toList
  | date d => dateChars d
  | timestamp t => timestampChars t
  | bytes bs => bytesChars bs
  | list items => '[' :: (commaJoined (listChars items) ++ [']'])
  | pair a b => '(' :: (a.chars ++ ',' :: ' ' :: (b.chars ++ [')']))
  | set [] => "set()".toList
  | set (m :: ms) => '\x7b' :: (commaJoined (m.chars :: listChars ms) ++ ['\x7d'])
  | mapping entries => '\x7b' :: (commaJoined (entriesChars entries) ++ ['\x7d'])
  | cycle isMapping => if isMapping then "\x7b...\x7d".toList else "[...]".toList

/-- The texts of the members of a list. -/
def listChars : List Value → List (List Char)
  | [] => []
  | v :: rest => v.chars :: listChars rest

/-- The texts of the entries of a mapping. -/
def entriesChars : List (Value × Value) → List (List Char)
  | [] => []
  | (k, v) :: rest => (k.chars ++ ':' :: ' ' :: v.chars) :: entriesChars rest

end

/-- The text of a value, of any depth. -/
def shown (v : Value) : String := String.ofList v.chars

mutual

/-- Whether the text of a value would need an integer with more digits than are converted. -/
def overlong : Value → Bool
  | int n => 10 ^ Numeral.digitLimit ≤ n.natAbs
  | list items => listOverlong items
  | pair a b => a.overlong || b.overlong
  | set members => listOverlong members
  | mapping entries => entriesOverlong entries
  | _ => false

/-- Whether a member is overlong. -/
def listOverlong : List Value → Bool
  | [] => false
  | v :: rest => v.overlong || listOverlong rest

/-- Whether a key or a value is overlong. -/
def entriesOverlong : List (Value × Value) → Bool
  | [] => false
  | (k, v) :: rest => k.overlong || v.overlong || entriesOverlong rest

end

end Value
end DeviceSampling
