/-
# Quoted text

A text shown in a message stands between quotes and on one line: the quote, the backslash and
all that is not printable are escaped.  The single quote delimits, unless the text holds a
single quote and no double one.

* `quote` writes a text, `escapeChar` one character of it.
-/
import DeviceSampling.Text.Printable

namespace DeviceSampling.Text

/-! ## 1. Hexadecimal numbers of fixed width -/

/-- A hexadecimal digit, in lower case. -/
def hexDigit (n : Nat) : Char :=
  if n < 10 then Char.ofNat (0x30 + n) else Char.ofNat (0x57 + n)

/-- The last `width` hexadecimal digits of a number. -/
def hexDigits : Nat → Nat → List Char
  | 0, _ => []
  | width + 1, n => hexDigits width (n / 16) ++ [hexDigit (n % 16)]

/-! ## 2. Quoting -/

/-- One character between quotes of the given kind. -/
def escapeChar (delimiter c : Char) : List Char :=
  if c = delimiter ∨ c = '\\' then ['\\', c]
  else if c = '\t' then ['\\', 't']
  else if c = '\n' then ['\\', 'n']
  else if c = '\r' then ['\\', 'r']
  else if isPrintable c then [c]
  else if c.toNat ≤ 0xFF then '\\' :: 'x' :: hexDigits 2 c.toNat
  else if c.toNat ≤ 0xFFFF then '\\' :: 'u' :: hexDigits 4 c.toNat
  else '\\' :: 'U' :: hexDigits 8 c.toNat

/-- The quote that delimits a text. -/
def delimiterOf (cs : List Char) : Char :=
  if cs.contains '\'' && !cs.contains '"' then '"' else '\''

/-- The text between quotes. -/
def quoteChars (cs : List Char) : List Char :=
  delimiterOf cs :: (cs.flatMap (escapeChar (delimiterOf cs)) ++ [delimiterOf cs])

/-- The text between quotes. -/
def quote (s : String) : String := String.ofList (quoteChars s.toList)

end DeviceSampling.Text
