/-
# JSON tokens

The lexemes of a JSON text.  A number stands as its characters, because whether they convert is
asked only where a number may stand; so does a text that breaks off or holds a bad escape.  A
character that starts no lexeme is stray and ends the list of tokens.

Each token knows how much of the text is LEFT at its start, so that a fault can name a place.

* `scanText` reads a text after its opening quote;
* `tokens` cuts a whole text.
-/
import DeviceSampling.Document.Value
import DeviceSampling.Text.Digit

namespace DeviceSampling
namespace Json

/-! ## 1. Texts -/

/-- Why a text in quotes cannot be read. -/
inductive TextFault where
  | unterminated
  | controlCharacter
  | badEscape
  | badUnicodeEscape
  deriving DecidableEq, Repr

/-- The character of a one-letter escape. -/
def simpleEscape? : Char → Option Char
  | '"' => some '"'
  | '\\' => some '\\'
  | '/' => some '/'
  | 'b' => some '\x08'
  | 'f' => some '\x0c'
  | 'n' => some '\n'
  | 'r' => some '\r'
  | 't' => some '\t'
  | _ => none

/-- The code units of a text after its opening quote, and what follows the closing one.  A fault
comes with the length of the text from its place on; an unterminated text is at fault as a
whole. -/
def scanUnits : List Char → Except (TextFault × Nat) (List Nat × List Char)
  | [] => .error (.unterminated, 0)
  | '"' :: rest => .ok ([], rest)
  | ['\\'] => .error (.unterminated, 0)
  | '\\' :: 'u' :: a :: b :: c :: d :: rest =>
    match Text.hexNumber? [a, b, c, d], rest.isEmpty with
    | some n, false => (scanUnits rest).map fun (units, tail) => (n :: units, tail)
    | _, _ => .error (.badUnicodeEscape, rest.length + 5)
  | '\\' :: 'u' :: rest => .error (.badUnicodeEscape, rest.length + 1)
  | '\\' :: c :: rest =>
    match simpleEscape? c with
    | some e => (scanUnits rest).map fun (units, tail) => (e.toNat :: units, tail)
    | none => .error (.badEscape, rest.length + 2)
  | c :: rest =>
    if c.toNat < 0x20 then .error (.controlCharacter, rest.length + 1)
    else (scanUnits rest).map fun (units, tail) => (c.toNat :: units, tail)

/-- The characters of code units: a high surrogate and a low one together are one character; a
surrogate alone is shown by the replacement character. -/
def joinUnits : List Nat → List Char
  | [] => []
  | high :: low :: rest =>
    if 0xD800 ≤ high ∧ high < 0xDC00 ∧ 0xDC00 ≤ low ∧ low < 0xE000 then
      Char.ofNat (0x10000 + (high - 0xD800) * 0x400 + (low - 0xDC00)) :: joinUnits rest
    else oneUnit high :: joinUnits (low :: rest)
  | [unit] => [oneUnit unit]
where
  /-- The character of a unit of its own. -/
  oneUnit (unit : Nat) : Char :=
    if 0xD800 ≤ unit ∧ unit < 0xE000 then '\uFFFD' else Char.ofNat unit

/-- A text after its opening quote, and what follows the closing one. -/
def scanText (cs : List Char) : Except (TextFault × Nat) (String × List Char) :=
  (scanUnits cs).map fun (units, tail) => (String.ofList (joinUnits units), tail)

/-! ## 2. Numbers -/

/-- Splits a run of digits off the front. -/
def spanDigits (cs : List Char) : List Char × List Char :=
  (cs.takeWhile Char.isDigit, cs.dropWhile Char.isDigit)

/-- The whole part of a number: zero, or digits that do not start with zero. -/
def scanWhole? : List Char → Option (List Char × List Char)
  | '0' :: rest => some (['0'], rest)
  | cs => if (spanDigits cs).1.isEmpty then none else some (spanDigits cs)

/-- A point and the digits after it, if there are any. -/
def scanFraction : List Char → List Char × List Char
  | '.' :: rest =>
    if (spanDigits rest).1.isEmpty then ([], '.' :: rest)
    else ('.' :: (spanDigits rest).1, (spanDigits rest).2)
  | cs => ([], cs)

/-- An exponent, if it has digits. -/
def scanExponent : List Char → List Char × List Char
  | e :: rest =>
    if e = 'e' ∨ e = 'E' then
      let (sign, body) := match rest with
        | '+' :: r => (['+'], r)
        | '-' :: r => (['-'], r)
        | r => ([], r)
      if (spanDigits body).1.isEmpty then ([], e :: rest)
      else (e :: (sign ++ (spanDigits body).1), (spanDigits body).2)
    else ([], e :: rest)
  | [] => ([], [])

/-! ## 3. Tokens -/

/-- A lexeme. -/
inductive Token where
  /-- A bracket, a brace, a comma or a colon. -/
  | mark (c : Char)
  | text (s : String)
  | badText (fault : TextFault) (left : Nat)
  | integer (digits : List Char)
  | double (digits : List Char)
  /-- A named constant. -/
  | name (v : Value)
  | stray

/-- A token and the length of the text from its start on. -/
structure PlacedToken where
  token : Token
  left : Nat

/-- The named constants. -/
def constants : List (List Char × Value) :=
  [("null".toList, .null), ("true".toList, .bool true), ("false".toList, .bool false),
    ("NaN".toList, .double .nan), ("Infinity".toList, .double (.infinite false)),
    ("-Infinity".toList, .double (.infinite true))]

/-- A number at the front of a text. -/
def scanNumber? (cs : List Char) : Option (Token × List Char) :=
  let (sign, unsigned) := match cs with
    | '-' :: r => (['-'], r)
    | r => ([], r)
  (scanWhole? unsigned).map fun (whole, afterWhole) =>
    let (fraction, afterFraction) := scanFraction afterWhole
    let (exponent, rest) := scanExponent afterFraction
    let digits := sign ++ whole ++ fraction ++ exponent
    (if fraction.isEmpty && exponent.isEmpty then .integer digits else .double digits, rest)

/-- The lexeme at the front of a text that starts with no space. -/
def scanToken (c : Char) (rest : List Char) : Token × List Char :=
  if c ∈ ['[', ']', '\x7b', '\x7d', ',', ':'] then (.mark c, rest)
  else if c = '"' then
    match scanText rest with
    | .ok (s, tail) => (.text s, tail)
    | .error (.unterminated, _) => (.badText .unterminated (rest.length + 1), [])
    | .error (fault, left) => (.badText fault left, [])
  else
    match constants.find? fun k => k.1.isPrefixOf (c :: rest) with
    | some (spelling, v) => (.name v, (c :: rest).drop spelling.length)
    | none => (scanNumber? (c :: rest)).getD (.stray, [])

/-- Whether the character separates tokens. -/
def isSpace (c : Char) : Bool := c = ' ' || c = '\t' || c = '\n' || c = '\r'

/-- The tokens of a text; every step takes a character at least. -/
def tokensWithin : Nat → List Char → List PlacedToken
  | 0, _ => []
  | steps + 1, cs =>
    match cs with
    | [] => []
    | c :: rest =>
      if isSpace c then tokensWithin steps rest
      else
        let (token, tail) := scanToken c rest
        ⟨token, rest.length + 1⟩ :: tokensWithin steps tail

/-- The tokens of a text. -/
def tokens (cs : List Char) : List PlacedToken := tokensWithin cs.length cs

end Json
end DeviceSampling
