/-
# Names in YAML

Anchors and aliases, tags, and the directives in front of a document.

* `scanName` reads the name of an anchor or alias after its sign;
* `scanTag` reads a tag: verbatim, with a handle, or the exclamation mark alone;
* `scanDirective` reads a directive and the end of its line.
-/
import DeviceSampling.Text.Utf8
import DeviceSampling.Yaml.Token

namespace DeviceSampling
namespace Yaml

/-! ## 1. Anchors and aliases -/

/-- Whether an anchor or alias may end here. -/
def endsName : Option Char → Bool
  | none => true
  | some c => endsWord (some c) || c ∈ ['?', ':', ',', ']', '\x7d', '%', '@', '\x60']

/-- The name of an anchor or alias, after its sign. -/
def scanName (c : Cursor) : Scan (String × Cursor) :=
  let (name, c') := c.spanning isNameChar
  if name.isEmpty || !endsName c'.peek then .error .malformed
  else .ok (String.ofList name, c')

/-! ## 2. Tags -/

/-- Whether the character may stand in the rest of a tag. -/
def isUriChar (c : Char) : Bool :=
  isNameChar c || c ∈ [';', '/', '?', ':', '@', '&', '=', '+', '$', ',', '.', '!', '~', '*', '\'',
    '(', ')', '[', ']', '%']

/-- The bytes of a run of percent escapes. -/
def escapedBytes? : List Char → Option (List UInt8)
  | '%' :: a :: b :: rest => do
    let n ← Text.hexNumber? [a, b]
    let more ← escapedBytes? rest
    return UInt8.ofNat n :: more
  | '%' :: _ => none
  | _ => some []

/-- The characters of a run of percent escapes, and the place after it. -/
def scanEscapes (c : Cursor) : Scan (List Char × Cursor) :=
  match escapedBytes? c.rest with
  | none => .error .malformed
  | some bytes =>
    match Text.Utf8.decode bytes with
    | .error _ => .error .malformed
    | .ok cs => .ok (cs, c.advanceBy (3 * bytes.length))

/-- The rest of a tag.  Every step takes a character at least. -/
def uriFrom : Nat → Cursor → Scan (List Char × Cursor)
  | 0, c => .ok ([], c)
  | steps + 1, c =>
    match c.peek with
    | some '%' => do
      let (piece, c') ← scanEscapes c
      let (more, c'') ← uriFrom steps c'
      return (piece ++ more, c'')
    | some ch =>
      if isUriChar ch then do
        let (more, c') ← uriFrom steps c.advance
        return (ch :: more, c')
      else .ok ([], c)
    | none => .ok ([], c)

/-- The rest of a tag: not empty. -/
def scanUri (c : Cursor) : Scan (String × Cursor) := do
  if !c.peek.any isUriChar then throw .malformed
  let (cs, c') ← uriFrom c.rest.length c
  return (String.ofList cs, c')

/-- A handle: one exclamation mark before a space, or a name between two. -/
def scanHandle (c : Cursor) : Scan (String × Cursor) :=
  if c.peek ≠ some '!' then .error .malformed
  else if c.peekAt 1 = some ' ' then .ok ("!", c.advance)
  else
    let (name, c') := c.advance.spanning isNameChar
    if c'.peek ≠ some '!' then .error .malformed
    else .ok ("!" ++ String.ofList name ++ "!", c'.advance)

/-- A tag, from its exclamation mark on. -/
def scanTagName (c : Cursor) : Scan (TagName × Cursor) :=
  if c.peekAt 1 = some '<' then do
    let (suffix, c') ← scanUri (c.advanceBy 2)
    if c'.peek ≠ some '>' then throw .malformed
    return (⟨none, suffix⟩, c'.advance)
  else if endsWord (c.peekAt 1) then .ok (⟨none, "!"⟩, c.advance)
  else do
    let word := c.advance.rest.takeWhile fun ch => !endsPhrase (some ch)
    let (handle, c') ← if '!' ∈ word then scanHandle c else pure ("!", c.advance)
    let (suffix, c'') ← scanUri c'
    return (⟨some handle, suffix⟩, c'')

/-- A tag and the blank after it. -/
def scanTag (c : Cursor) : Scan (TagName × Cursor) := do
  let (name, c') ← scanTagName c
  if !endsPhrase c'.peek then throw .malformed
  return (name, c')

/-! ## 3. Directives -/

/-- A number of a version. -/
def scanVersionNumber (c : Cursor) : Scan (Int × Cursor) :=
  let (digits, c') := c.spanning Char.isDigit
  if digits.isEmpty then .error .malformed
  else match Numeral.readInteger (String.ofList digits) with
    | .ok n => .ok (n, c')
    | .error fault => .error (.version fault)

/-- A version: two numbers with a point between them. -/
def scanVersion (c : Cursor) : Scan (Directive × Cursor) := do
  let (major, c₁) ← scanVersionNumber (c.skip (· = ' '))
  if c₁.peek ≠ some '.' then throw .malformed
  let (_, c₂) ← scanVersionNumber c₁.advance
  if !endsPhrase c₂.peek then throw .malformed
  return (.version major, c₂)

/-- A handle and what it stands for. -/
def scanHandleMeaning (c : Cursor) : Scan (Directive × Cursor) := do
  let (handle, c₁) ← scanHandle (c.skip (· = ' '))
  if c₁.peek ≠ some ' ' then throw .malformed
  let (stem, c₂) ← scanUri (c₁.skip (· = ' '))
  if !endsPhrase c₂.peek then throw .malformed
  return (.handle handle stem, c₂)

/-- A directive, from its percent sign to the end of the line. -/
def scanDirective (c : Cursor) : Scan (Directive × Cursor) := do
  let (name, c₁) := c.advance.spanning isNameChar
  if name.isEmpty || !endsPhrase c₁.peek then throw .malformed
  let (directive, c₂) ← match String.ofList name with
    | "YAML" => scanVersion c₁
    | "TAG" => scanHandleMeaning c₁
    | _ => pure (.other, c₁.skip (!isBreak ·))
  match c₂.finishLine? with
  | some c₃ => return (directive, c₃)
  | none => throw .malformed

end Yaml
end DeviceSampling
