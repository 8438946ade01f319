/-
# Values of scalars

What the text of a scalar stands for under its tag.  A tag that is written out may be put on any
text, so every conversion can fail.

* `readTruth`, `readInteger`, `readDouble`, `readTimestamp` and `readBytes?` convert a text;
* `ScalarFault.message` says what is wrong.
-/
import DeviceSampling.Text.Lowercase
import DeviceSampling.Yaml.Tag

namespace DeviceSampling
namespace Yaml

/-! ## 1. Faults -/

/-- Why a text has no value under its tag. -/
inductive ScalarFault where
  /-- Not a truth value. -/
  | truth (text : String)
  /-- A number without any character. -/
  | nothing
  | integer (fault : Numeral.IntegerFault)
  | double (fault : Numeral.DoubleFault)
  /-- A double in so many places of base sixty that the weight of one is beyond the doubles. -/
  | weight
  /-- Not a timestamp. -/
  | timestamp
  | calendar (fault : CalendarFault)
  /-- A collection where the text of a timestamp must be. -/
  | timestampText
  deriving DecidableEq, Repr

/-- The message of a scalar fault. -/
def ScalarFault.message : ScalarFault → String
  | .truth text => Text.quote text
  | .nothing => "string index out of range"
  | .integer fault => fault.message
  | .double fault => fault.message
  | .weight => "int too large to convert to float"
  | .timestamp => "'NoneType' object has no attribute 'groupdict'"
  | .calendar fault => fault.message
  | .timestampText => "expected string or bytes-like object, got 'list'"

/-- Whether the fault is that of a text that is no number and no time, rather than one of
another kind. -/
def ScalarFault.isBadValue : ScalarFault → Bool
  | .integer _ | .double _ | .calendar _ => true
  | .truth _ | .nothing | .weight | .timestamp | .timestampText => false

/-! ## 2. Truth values and numbers -/

/-- A truth value, in any case. -/
def readTruth (text : String) : Except ScalarFault Bool :=
  let word := String.ofList (Text.lowercase text.toList)
  if word ∈ ["yes", "true", "on"] then .ok true
  else if word ∈ ["no", "false", "off"] then .ok false
  else .error (.truth word)

/-- Takes a sign off the front, true for a minus; something must be there. -/
def takeSign (cs : List Char) : Except ScalarFault (Bool × List Char) :=
  if cs.isEmpty then .error .nothing else .ok (Numeral.takeSign cs)

/-- The number in places of base sixty. -/
def ofPlaces (places : List Int) : Int := places.foldl (fun n p => n * 60 + p) 0

/-- A decimal integer. -/
def readDecimal (cs : List Char) : Except ScalarFault Int :=
  match Numeral.readInteger (String.ofList cs) with
  | .ok n => .ok n
  | .error fault => .error (.integer fault)

/-- An integer in a base that is a power of two. -/
def readBinary (base : Nat) (cs : List Char) : Except ScalarFault Int :=
  match Numeral.readIntegerIn base (String.ofList cs) with
  | .ok n => .ok n
  | .error fault => .error (.integer fault)

/-- An integer without sign and underscores. -/
def readUnsigned : List Char → Except ScalarFault Int
  | [] => .error .nothing
  | ['0'] => .ok 0
  | '0' :: 'b' :: rest => readBinary 2 rest
  | '0' :: 'x' :: rest => readBinary 16 rest
  | '0' :: rest => readBinary 8 ('0' :: rest)
  | cs =>
    if ':' ∈ cs then do return ofPlaces (← (Spelling.colonPieces cs).mapM readDecimal)
    else readDecimal cs

/-- An integer: binary, octal, decimal, hexadecimal, or in places of base sixty. -/
def readInteger (text : String) : Except ScalarFault Int := do
  let (negative, body) ← takeSign (text.toList.filter (· ≠ '_'))
  let n ← readUnsigned body
  return if negative then -n else n

/-- A decimal double. -/
def readPlace (cs : List Char) : Except ScalarFault Binary64 :=
  match Numeral.readDouble (String.ofList cs) with
  | .ok x => .ok x
  | .error fault => .error (.double fault)

/-- The sum of places of base sixty, the last place first; `weight` is that of the next place. -/
def sumPlaces (sum : Binary64) (weight : Nat) : List Binary64 → Except ScalarFault Binary64
  | [] => .ok sum
  | p :: rest =>
    match Binary64.ofInt? weight with
    | none => .error .weight
    | some w => sumPlaces (sum + p * w) (weight * 60) rest

/-- A double without sign and underscores, in lower case. -/
def readUnsignedDouble (cs : List Char) : Except ScalarFault Binary64 :=
  if cs = ".inf".toList then .ok (.infinite false)
  else if cs = ".nan".toList then .ok .nan
  else if ':' ∈ cs then do
    let places ← (Spelling.colonPieces cs).mapM readPlace
    sumPlaces Binary64.zero 1 places.reverse
  else readPlace cs

/-- A double. -/
def readDouble (text : String) : Except ScalarFault Binary64 := do
  let (negative, body) ← takeSign (Text.lowercase (text.toList.filter (· ≠ '_')))
  let x ← readUnsignedDouble body
  return if negative then x.negate else x

/-! ## 3. Times -/

/-- A date or a timestamp. -/
def readTimestamp (text : String) : Except ScalarFault Value :=
  let cs := match text.toList.reverse with
    | '\n' :: rest => rest.reverse
    | _ => text.toList
  match WrittenTime.ofChars? cs with
  | none => .error .timestamp
  | some w =>
    match w.toValue with
    | .ok v => .ok v
    | .error fault => .error (.calendar fault)

/-! ## 4. Bytes -/

/-- The value of a digit of base sixty-four. -/
def sixBits? (c : Char) : Option Nat :=
  if 'A' ≤ c ∧ c ≤ 'Z' then some (c.toNat - 0x41)
  else if 'a' ≤ c ∧ c ≤ 'z' then some (c.toNat - 0x47)
  else if '0' ≤ c ∧ c ≤ '9' then some (c.toNat + 4)
  else if c = '+' then some 62
  else if c = '/' then some 63
  else none

/-- The bytes of the text after some digits of a group: their number, below four, and the bits of
them that are in no byte yet.  Equals signs fill a group up and end the text; other characters
are skipped.  A group must not break off. -/
def bytesFrom? (digits bits pads : Nat) : List Char → Option (List UInt8)
  | [] => if digits = 0 then some [] else none
  | c :: rest =>
    if c = '=' then
      if 2 ≤ digits then
        if 4 ≤ digits + pads + 1 then some [] else bytesFrom? digits bits (pads + 1) rest
      else bytesFrom? digits bits pads rest
    else match sixBits? c with
      | none => bytesFrom? digits bits pads rest
      | some d =>
        match digits with
        | 0 => bytesFrom? 1 d 0 rest
        | 1 => (bytesFrom? 2 (d % 16) 0 rest).map (UInt8.ofNat (bits * 4 + d / 16) :: ·)
        | 2 => (bytesFrom? 3 (d % 4) 0 rest).map (UInt8.ofNat (bits * 16 + d / 4) :: ·)
        | _ => (bytesFrom? 0 0 0 rest).map (UInt8.ofNat (bits * 64 + d) :: ·)

/-- Bytes in base sixty-four.  The text is ASCII. -/
def readBytes? (text : String) : Option (List UInt8) :=
  if text.toList.all (·.toNat < 0x80) then bytesFrom? 0 0 0 text.toList else none

end Yaml
end DeviceSampling
