/-
# Quoted scalars

A scalar between single quotes holds its characters, and a quote where two stand.  Between
double quotes a backslash escapes.  Line breaks are folded in both.

* `scanQuoted` reads a quoted scalar from its opening quote on.
-/
import DeviceSampling.Text.Digit
import DeviceSampling.Yaml.Token

namespace DeviceSampling
namespace Yaml

/-- The character of a one-letter escape. -/
def letterEscape? : Char → Option Char
  | '0' => some '\x00'
  | 'a' => some '\x07'
  | 'b' => some '\x08'
  | 't' => some '\t'
  | '\t' => some '\t'
  | 'n' => some '\n'
  | 'v' => some '\x0b'
  | 'f' => some '\x0c'
  | 'r' => some '\r'
  | 'e' => some '\x1b'
  | ' ' => some ' '
  | '"' => some '"'
  | '\\' => some '\\'
  | '/' => some '/'
  | 'N' => some '\u0085'
  | '_' => some '\u00A0'
  | 'L' => some '\u2028'
  | 'P' => some '\u2029'
  | _ => none

/-- How many hexadecimal digits follow the letter of an escape. -/
def escapeWidth? : Char → Option Nat
  | 'x' => some 2
  | 'u' => some 4
  | 'U' => some 8
  | _ => none

/-- The character with a number.  A surrogate has none of its own and is shown by the replacement
character. -/
def characterOf (number : Nat) : Scan Char :=
  if 0x7FFFFFFF < number then .error .hugeCharacter
  else if 0x10FFFF < number then .error .noCharacter
  else if 0xD800 ≤ number ∧ number < 0xE000 then .ok '\uFFFD'
  else .ok (Char.ofNat number)

/-- The breaks of empty lines at the beginning of a line, and the place after the gap that
follows.  A document must not end there. -/
def quotedBreaks : Nat → Cursor → Scan (List Char × Cursor)
  | 0, _ => .error .malformed
  | steps + 1, c =>
    if c.atDocumentEdge then .error .malformed
    else
      let c' := c.skip isGap
      if c'.peek.any isBreak then do
        let (first, c₁) := c'.lineBreak
        let (more, c₂) ← quotedBreaks steps c₁
        return (first ++ more, c₂)
      else .ok ([], c')

/-- A gap: blanks on a line as they are, or folded breaks. -/
def quotedGap (c : Cursor) : Scan (List Char × Cursor) :=
  let (blanks, c₁) := c.spanning isGap
  match c₁.peek with
  | none => .error .malformed
  | some ch =>
    if isBreak ch then do
      let (first, c₂) := c₁.lineBreak
      let (more, c₃) ← quotedBreaks (c₂.rest.length + 1) c₂
      return (foldBreaks first more, c₃)
    else .ok (blanks, c₁)

/-- An escape, after its backslash. -/
def scanEscape (c : Cursor) : Scan (List Char × Cursor) :=
  match c.peek with
  | none => .error .malformed
  | some ch =>
    match letterEscape? ch, escapeWidth? ch with
    | some e, _ => .ok ([e], c.advance)
    | none, some width =>
      let digits := c.advance.rest.take width
      if digits.length < width then .error .malformed
      else match Text.hexNumber? digits with
        | none => .error .malformed
        | some n => do return ([← characterOf n], c.advanceBy (width + 1))
    | none, none =>
      if isBreak ch then quotedBreaks (c.rest.length + 1) c.lineBreak.2 else .error .malformed

/-- The rest of a scalar after its opening quote.  Every step takes a character at least. -/
def quotedFrom (double : Bool) : Nat → Cursor → Scan (List Char × Cursor)
  | 0, _ => .error .malformed
  | steps + 1, c =>
    match c.peek with
    | none => .error .malformed
    | some ch =>
      let quote := if double then '"' else '\''
      if ch = quote then
        if !double && c.peekAt 1 = some quote then goOn steps [quote] (c.advanceBy 2)
        else .ok ([], c.advance)
      else if isGap ch || isBreak ch then do
        let (text, c') ← quotedGap c
        goOn steps text c'
      else if double && ch = '\\' then do
        let (text, c') ← scanEscape c.advance
        goOn steps text c'
      else goOn steps [ch] c.advance
where
  /-- The rest of the scalar after a piece of it. -/
  goOn (steps : Nat) (text : List Char) (c : Cursor) : Scan (List Char × Cursor) := do
    let (more, c') ← quotedFrom double steps c
    return (text ++ more, c')

/-- A quoted scalar, and the place after it. -/
def scanQuoted (double : Bool) (c : Cursor) : Scan (List Char × Cursor) :=
  quotedFrom double (c.rest.length + 1) c.advance

end Yaml
end DeviceSampling
