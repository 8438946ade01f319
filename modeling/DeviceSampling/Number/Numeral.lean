/-
# Numerals

The texts that stand for numbers.  Both kinds of numeral may be padded with spaces, may use
the decimal digits of any script, and may separate digits by single underscores.

* `readInteger`: a sign and digits, at most 4300 of them;
* `readDouble`: a sign, digits with a point and an exponent, or a name for infinity or for
  not-a-number, rounded to the nearest double.

`IntegerFault` and `DoubleFault` say why a text is no numeral; their messages quote it.
-/
import DeviceSampling.Number.Binary64
import DeviceSampling.Text.Blank
import DeviceSampling.Text.Digit
import DeviceSampling.Text.Quoted

namespace DeviceSampling
namespace Numeral

open Text

/-! ## 1. Plain spelling -/

/-- One character in plain spelling: digits of any script become ASCII digits and blanks
beyond ASCII become spaces.  Nothing else beyond ASCII occurs in a numeral; it becomes a
question mark. -/
def plainChar (c : Char) : Char :=
  if c.toNat < 0x7F then c
  else if isBlank c then ' '
  else match digitValue? c with
    | some v => asciiDigit v
    | none => '?'

/-- The blanks that may pad a numeral in plain spelling. -/
def isPadding (c : Char) : Bool := c = ' ' || (0x09 ≤ c.toNat && c.toNat ≤ 0x0D)

/-- Drops the padding at both ends. -/
def unpad (cs : List Char) : List Char :=
  ((cs.dropWhile isPadding).reverse.dropWhile isPadding).reverse

/-- Takes a sign off the front; true for a minus. -/
def takeSign : List Char → Bool × List Char
  | '-' :: rest => (true, rest)
  | '+' :: rest => (false, rest)
  | cs => (false, cs)

/-- The number written by ASCII digits in a base. -/
def ofDigits (base : Nat) (ds : List Char) : Nat :=
  ds.foldl (fun n c => n * base + (c.toNat - 0x30)) 0

/-! ## 2. Integers -/

/-- Why a text is no integer. -/
inductive IntegerFault where
  /-- The text is not a signed run of digits of the base. -/
  | malformed (base : Nat) (text : String)
  /-- There are more digits than are converted. -/
  | tooManyDigits (count : Nat)
  deriving DecidableEq, Repr

/-- The most digits of an integer that are converted from or to text. -/
def digitLimit : Nat := 4300

/-- The message of an integer fault.  A long text is cut off in it. -/
def IntegerFault.message : IntegerFault → String
  | .malformed base text =>
    "invalid literal for int() with base " ++ toString base ++ ": " ++
      String.ofList ((quoteChars text.toList).take 200)
  | .tooManyDigits count =>
    "Exceeds the limit (4300 digits) for integer string conversion: value has " ++ toString count ++
      " digits; use sys.set_int_max_str_digits() to increase the limit"

/-- Whether underscores stand only between digits, given that the text holds nothing else. -/
def underscoresSeparate : List Char → Bool
  | [] => true
  | ['_'] => false
  | '_' :: '_' :: _ => false
  | _ :: rest => underscoresSeparate rest

/-- Reads an integer. -/
def readInteger (text : String) : Except IntegerFault Int :=
  let (negative, body) := takeSign ((text.toList.map plainChar).dropWhile isPadding)
  let run := body.takeWhile fun c => c.isDigit || c = '_'
  let rest := body.dropWhile fun c => c.isDigit || c = '_'
  let digits := run.filter (· ≠ '_')
  if run.head? = some '_' || !underscoresSeparate run || digits.isEmpty then
    .error (.malformed 10 text)
  else if digitLimit < digits.length then .error (.tooManyDigits digits.length)
  else if !rest.all isPadding then .error (.malformed 10 text)
  else
    let n := ofDigits 10 digits
    .ok (if negative then -n else n)

/-- The letter that may stand between a zero and the digits of a base. -/
def baseLetter? : Nat → Option Char
  | 2 => some 'b'
  | 8 => some 'o'
  | 16 => some 'x'
  | _ => none

/-- Takes the mark of a base off the front: a zero and the letter, in either case. -/
def takeBaseMark (base : Nat) : List Char → List Char
  | '0' :: c :: rest => if some c.toLower = baseLetter? base then rest else '0' :: c :: rest
  | cs => cs

/-- Reads an integer in base two, eight or sixteen, with or without the mark of the base and
without underscores.  There is no limit on its digits. -/
def readIntegerIn (base : Nat) (text : String) : Except IntegerFault Int :=
  let (negative, body) := takeSign ((text.toList.map plainChar).dropWhile isPadding)
  let isBaseDigit (c : Char) : Bool := (hexValue? c).any (· < base)
  let digits := (takeBaseMark base body).takeWhile isBaseDigit
  let rest := (takeBaseMark base body).dropWhile isBaseDigit
  if digits.isEmpty || !rest.all isPadding then .error (.malformed base text)
  else
    let n : Int := digits.foldl (fun n c => n * base + (hexValue? c).getD 0) 0
    .ok (if negative then -n else n)

/-! ## 3. Doubles -/

/-- Why a text is no double. -/
structure DoubleFault where
  text : String
  deriving DecidableEq, Repr

/-- The message of a double fault. -/
def DoubleFault.message (f : DoubleFault) : String :=
  "could not convert string to float: " ++ quote f.text

/-- Takes the underscores out, each of which stands between two digits. -/
def withoutUnderscores? : Option Char → List Char → Option (List Char)
  | before, [] => if before = some '_' then none else some []
  | before, '_' :: rest =>
    if before.any Char.isDigit then withoutUnderscores? (some '_') rest else none
  | before, c :: rest =>
    if before = some '_' && !c.isDigit then none
    else (withoutUnderscores? (some c) rest).map (c :: ·)

/-- An exponent: nothing, or the letter, a sign and digits. -/
def readExponent : List Char → Option Int
  | [] => some 0
  | c :: rest =>
    let (negative, ds) := takeSign rest
    if c.toLower = 'e' && !ds.isEmpty && ds.all Char.isDigit then
      let n := ofDigits 10 ds
      some (if negative then -n else n)
    else none

/-- An unsigned double without padding and underscores. -/
def readMagnitude (negative : Bool) (cs : List Char) : Option Binary64 :=
  let name := String.ofList (cs.map Char.toLower)
  if name = "inf" || name = "infinity" then some (.infinite negative)
  else if name = "nan" then some .nan
  else
    let whole := cs.takeWhile Char.isDigit
    let afterWhole := cs.dropWhile Char.isDigit
    let (fraction, tail) := match afterWhole with
      | '.' :: rest => (rest.takeWhile Char.isDigit, rest.dropWhile Char.isDigit)
      | _ => ([], afterWhole)
    if whole.isEmpty && fraction.isEmpty then none
    else (readExponent tail).map fun e =>
      .ofDecimal negative (ofDigits 10 (whole ++ fraction)) (e - fraction.length)

/-- Reads a double. -/
def readDouble (text : String) : Except DoubleFault Binary64 :=
  let (negative, body) :=
    takeSign ((unpad (text.toList.map plainChar)))
  match (withoutUnderscores? none body).bind (readMagnitude negative) with
  | some x => .ok x
  | none => .error ⟨text⟩

end Numeral
end DeviceSampling
