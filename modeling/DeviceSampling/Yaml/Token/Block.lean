/-
# Block scalars

A block scalar is a header and the lines below it that are indented.  The header says how deep,
unless the first line shows it, and what becomes of the breaks at the end.  In a folded scalar a
single break between lines that start with a word is a space.

* `scanBlock` reads a block scalar from its header on.
-/
import DeviceSampling.Yaml.Token

namespace DeviceSampling
namespace Yaml

/-- What becomes of the breaks at the end of a block scalar. -/
inductive Chomping where
  /-- One break stays. -/
  | clip
  | strip
  | keep
  deriving DecidableEq, Repr

/-- The header of a block scalar: its chomping, and by how many columns its lines are indented,
if the header says so. -/
structure BlockHeader where
  chomping : Chomping := .clip
  increment : Option Nat := none
  deriving DecidableEq, Repr

/-- Reads a sign of the header. -/
def chompingOf? : Char → Option Chomping
  | '+' => some .keep
  | '-' => some .strip
  | _ => none

/-- Reads the digit of an increment: nothing if there is none, a fault if it is zero. -/
def scanIncrement (c : Cursor) : Scan (Option Nat × Cursor) :=
  match c.peek with
  | some ch =>
    if ch = '0' then .error .malformed
    else if ch.isDigit then .ok (some (ch.toNat - 0x30), c.advance)
    else .ok (none, c)
  | none => .ok (none, c)

/-- Reads a sign and a digit in either order. -/
def scanIndicators (c : Cursor) : Scan (BlockHeader × Cursor) :=
  match c.peek.bind chompingOf? with
  | some chomping => do
    let (increment, c') ← scanIncrement c.advance
    return (⟨chomping, increment⟩, c')
  | none => do
    let (increment, c') ← scanIncrement c
    match increment, c'.peek.bind chompingOf? with
    | some _, some chomping => return (⟨chomping, increment⟩, c'.advance)
    | _, _ => return (⟨.clip, increment⟩, c')

/-- Reads the header and the end of its line. -/
def scanHeader (c : Cursor) : Scan (BlockHeader × Cursor) := do
  let (header, c') ← scanIndicators c
  if !endsPhrase c'.peek then throw .malformed
  match c'.finishLine? with
  | some c'' => return (header, c'')
  | none => throw .malformed

/-- Goes over spaces and breaks: the breaks, and the deepest column reached. -/
def measureIndent : Nat → Cursor → Nat → List Char × Nat × Cursor
  | 0, c, deepest => ([], deepest, c)
  | steps + 1, c, deepest =>
    match c.peek with
    | some ' ' => measureIndent steps c.advance (max deepest (c.column + 1))
    | some ch =>
      if isBreak ch then
        let (first, c') := c.lineBreak
        let (more, deepest', c'') := measureIndent steps c' deepest
        (first ++ more, deepest', c'')
      else ([], deepest, c)
    | none => ([], deepest, c)

/-- Goes over the spaces of an indentation of `indent` columns. -/
def skipIndent (indent : Nat) (c : Cursor) : Cursor :=
  let spaces := (c.rest.takeWhile (· = ' ')).length
  c.advanceBy (min spaces (indent - c.column))

/-- Goes over empty lines and the indentation of the next line that is not empty: the breaks, and
the place reached. -/
def blockBreaks (indent : Nat) : Nat → Cursor → List Char × Cursor
  | 0, c => ([], c)
  | steps + 1, c =>
    let c' := skipIndent indent c
    if c'.peek.any isBreak then
      let (first, c₁) := c'.lineBreak
      let (more, c₂) := blockBreaks indent steps c₁
      (first ++ more, c₂)
    else ([], c')

/-- What the break between two lines stands for: `lead` says whether the line before starts with
a word, `breaks` are those of empty lines between the two. -/
def joinLines (folded lead : Bool) (first breaks : List Char) (next : Option Char) : List Char :=
  if folded && first = ['\n'] && lead && !next.any isGap then
    if breaks.isEmpty then [' '] else []
  else first

/-- The lines of a block scalar, with the breaks at its end kept apart: the break of the last
line, and those of empty lines. -/
structure BlockLines where
  text : List Char
  lastBreak : List Char
  trailing : List Char
  cursor : Cursor

/-- Reads the lines of a block scalar.  Every line takes a character at least. -/
def blockLines (folded : Bool) (indent : Nat) (lastBreak : List Char) :
    Nat → List Char → Cursor → BlockLines
  | 0, breaks, c => ⟨[], lastBreak, breaks, c⟩
  | steps + 1, breaks, c =>
    if c.column ≠ indent || c.peek.isNone then ⟨[], lastBreak, breaks, c⟩
    else
      let lead := !c.peek.any isGap
      let (line, c₁) := c.spanning (!isBreak ·)
      let (first, c₂) := c₁.lineBreak
      let (breaks', c₃) := blockBreaks indent (c₂.rest.length + 1) c₂
      if c₃.column = indent && c₃.peek.isSome then
        let more := blockLines folded indent first steps breaks' c₃
        { more with
          text := breaks ++ line ++ joinLines folded lead first breaks' c₃.peek ++ more.text }
      else ⟨breaks ++ line, first, breaks', c₃⟩

/-- A block scalar in a collection whose entries are indented by less than `least` columns, and
the place after it. -/
def scanBlock (folded : Bool) (least : Nat) (c : Cursor) : Scan (List Char × Cursor) := do
  let (header, c₁) ← scanHeader c.advance
  let (indent, breaks, c₂) := match header.increment with
    | none =>
      let (breaks, deepest, c₂) := measureIndent c₁.rest.length c₁ 0
      (max (max least 1) deepest, breaks, c₂)
    | some n =>
      let indent := max least 1 + n - 1
      let (breaks, c₂) := blockBreaks indent (c₁.rest.length + 1) c₁
      (indent, breaks, c₂)
  let lines := blockLines folded indent [] c₂.rest.length breaks c₂
  let ending := match header.chomping with
    | .strip => []
    | .clip => lines.lastBreak
    | .keep => lines.lastBreak ++ lines.trailing
  return (lines.text ++ ending, lines.cursor)

end Yaml
end DeviceSampling
