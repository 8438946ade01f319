/-
# UTF-8

Bytes are decoded by a machine that takes one byte at a time.  It stands between characters, or
within one that needs more bytes; the range of the byte that may come next keeps surrogates,
overlong forms and numbers beyond the last character out.

* `decode` gives the characters, or the first fault;
* `Fault.message` names the bytes at fault: the beginning of a character that cannot go on.
* `unifyBreaks` makes every line end in a line feed.
-/
import DeviceSampling.Text.Quoted

namespace DeviceSampling.Text
namespace Utf8

/-! ## 1. Faults -/

/-- What is wrong with bytes. -/
inductive Flaw where
  | badStart
  | badContinuation
  | truncated
  deriving DecidableEq, Repr

/-- The wording of a flaw. -/
def Flaw.wording : Flaw → String
  | .badStart => "invalid start byte"
  | .badContinuation => "invalid continuation byte"
  | .truncated => "unexpected end of data"

/-- A flaw, the number of bytes before it, and the bytes at fault: one at least. -/
structure Fault where
  flaw : Flaw
  position : Nat
  first : UInt8
  /-- How many bytes follow the first. -/
  more : Nat := 0
  deriving DecidableEq, Repr

/-- The message of a fault. -/
def Fault.message (f : Fault) : String :=
  let place :=
    if f.more = 0 then
      "byte 0x" ++ String.ofList (hexDigits 2 f.first.toNat) ++ " in position " ++
        toString f.position
    else
      "bytes in position " ++ toString f.position ++ "-" ++ toString (f.position + f.more)
  "'utf-8' codec can't decode " ++ place ++ ": " ++ f.flaw.wording

/-! ## 2. The machine -/

/-- A character whose bytes are not all there. -/
structure Begun where
  first : UInt8
  /-- How many bytes were taken after the first. -/
  taken : Nat
  /-- How many bytes are still to come. -/
  missing : Nat
  /-- The range of the next byte. -/
  low : Nat
  high : Nat
  /-- The bits so far. -/
  bits : Nat
  deriving DecidableEq, Repr

/-- What the first byte of a character says: nothing but itself, more to come, or nonsense. -/
def begin? (b : UInt8) : Option (Char ⊕ Begun) :=
  let n := b.toNat
  if n < 0x80 then some (.inl (Char.ofNat n))
  else if n < 0xC2 then none
  else if n < 0xE0 then some (.inr ⟨b, 0, 1, 0x80, 0xBF, n % 0x20⟩)
  else if n < 0xF0 then
    some (.inr ⟨b, 0, 2, if n = 0xE0 then 0xA0 else 0x80, if n = 0xED then 0x9F else 0xBF, n % 0x10⟩)
  else if n < 0xF5 then
    some (.inr ⟨b, 0, 3, if n = 0xF0 then 0x90 else 0x80, if n = 0xF4 then 0x8F else 0xBF, n % 0x08⟩)
  else none

/-- A byte within a character: the character if it is the last one, what is begun if more are to
come, and nothing if it does not belong there. -/
def Begun.next? (c : Begun) (b : UInt8) : Option (Char ⊕ Begun) :=
  if c.low ≤ b.toNat ∧ b.toNat ≤ c.high then
    let bits := c.bits * 0x40 + b.toNat % 0x40
    if c.missing = 1 then some (.inl (Char.ofNat bits))
    else some (.inr ⟨c.first, c.taken + 1, c.missing - 1, 0x80, 0xBF, bits⟩)
  else none

/-- Decodes what follows the bytes before `position`, the number of bytes before the character
that is begun or comes next. -/
def decodeFrom (position : Nat) : Option Begun → List UInt8 → Except Fault (List Char)
  | none, [] => .ok []
  | some c, [] => .error ⟨.truncated, position, c.first, c.taken⟩
  | none, b :: rest =>
    match begin? b with
    | some (.inl char) => (decodeFrom (position + 1) none rest).map (char :: ·)
    | some (.inr c) => decodeFrom position (some c) rest
    | none => .error ⟨.badStart, position, b, 0⟩
  | some c, b :: rest =>
    match c.next? b with
    | some (.inl char) => (decodeFrom (position + c.taken + 2) none rest).map (char :: ·)
    | some (.inr c') => decodeFrom position (some c') rest
    | none => .error ⟨.badContinuation, position, c.first, c.taken⟩

/-- Decodes bytes. -/
def decode (bytes : List UInt8) : Except Fault (List Char) := decodeFrom 0 none bytes

end Utf8

/-! ## 3. Line ends -/

/-- The text with a line feed for every carriage return, and for the two together. -/
def unifyBreaks : List Char → List Char
  | [] => []
  | '\r' :: '\n' :: rest => '\n' :: unifyBreaks rest
  | c :: rest => (if c = '\r' then '\n' else c) :: unifyBreaks rest

end DeviceSampling.Text
