/-
# Places in a YAML text

A cursor is a place in a text: what is left of it, and where the place is.  The end of the text
counts as the end of a word and of a line.

* `Cursor.advance` takes one character; a line break starts a line, and a byte order mark takes
  no column;
* `Cursor.spanning` takes the longest run of characters of a class.
-/
namespace DeviceSampling
namespace Yaml

/-! ## 1. Characters -/

/-- Whether the character ends a line. -/
def isBreak (c : Char) : Bool :=
  c = '\n' || c = '\r' || c = '\u0085' || c = '\u2028' || c = '\u2029'

/-- Whether the character is a space or a tab. -/
def isGap (c : Char) : Bool := c = ' ' || c = '\t'

/-- Whether a line ends here: at a break, or at the end of the text. -/
def endsLine : Option Char → Bool
  | none => true
  | some c => isBreak c

/-- Whether a line ends here, or a space stands here. -/
def endsPhrase : Option Char → Bool
  | none => true
  | some c => c = ' ' || isBreak c

/-- Whether a line ends here, or a space or a tab stands here. -/
def endsWord : Option Char → Bool
  | none => true
  | some c => isGap c || isBreak c

/-- Whether the character may stand in the name of an anchor, a directive or a tag handle. -/
def isNameChar (c : Char) : Bool :=
  ('0' ≤ c && c ≤ '9') || ('A' ≤ c && c ≤ 'Z') || ('a' ≤ c && c ≤ 'z') || c = '-' || c = '_'

/-- Whether the character may stand in a text at all. -/
def isAllowed (c : Char) : Bool :=
  c = '\t' || c = '\n' || c = '\r' || (' ' ≤ c && c ≤ '~') || c = '\u0085' ||
    ('\u00A0' ≤ c && c ≤ '\uFFFD') || 0x10000 ≤ c.toNat

/-! ## 2. Cursors -/

/-- A place in a text. -/
structure Cursor where
  rest : List Char
  index : Nat := 0
  line : Nat := 0
  column : Nat := 0
  deriving Repr

namespace Cursor

/-- The character at the place, if the text does not end there. -/
def peek (c : Cursor) : Option Char := c.rest.head?

/-- The character `n` places on. -/
def peekAt (c : Cursor) (n : Nat) : Option Char := c.rest[n]?

/-- The place after one character. -/
def advance (c : Cursor) : Cursor :=
  match c.rest with
  | [] => c
  | ch :: rest =>
    if isBreak ch then ⟨rest, c.index + 1, c.line + 1, 0⟩
    else if ch = '\uFEFF' then ⟨rest, c.index + 1, c.line, c.column⟩
    else ⟨rest, c.index + 1, c.line, c.column + 1⟩

/-- The place after `n` characters. -/
def advanceBy (c : Cursor) : Nat → Cursor
  | 0 => c
  | n + 1 => c.advance.advanceBy n

/-- The longest run of characters of a class, and the place after it. -/
def spanning (c : Cursor) (p : Char → Bool) : List Char × Cursor :=
  let run := c.rest.takeWhile p
  (run, c.advanceBy run.length)

/-- The place after the longest run of characters of a class. -/
def skip (c : Cursor) (p : Char → Bool) : Cursor := (c.spanning p).2

/-- A line break, as the text that it stands for, and the place after it. -/
def lineBreak (c : Cursor) : List Char × Cursor :=
  match c.rest with
  | '\u2028' :: _ => (['\u2028'], c.advance)
  | '\u2029' :: _ => (['\u2029'], c.advance)
  | ch :: _ => if isBreak ch then (['\n'], c.advance) else ([], c)
  | [] => ([], c)

/-- The end of a line that says no more: spaces, a comment, and the break. -/
def finishLine? (c : Cursor) : Option Cursor :=
  let afterSpaces := c.skip (· = ' ')
  let afterComment :=
    if afterSpaces.peek = some '#' then afterSpaces.skip (!isBreak ·) else afterSpaces
  if endsLine afterComment.peek then some afterComment.lineBreak.2 else none

/-- Whether the marker of a document, three equal characters, stands here as a word. -/
def atMarker (c : Cursor) (ch : Char) : Bool :=
  c.rest.take 3 = [ch, ch, ch] && endsWord (c.peekAt 3)

/-- Whether a document starts or ends here. -/
def atDocumentEdge (c : Cursor) : Bool := c.atMarker '-' || c.atMarker '.'

end Cursor
end Yaml
end DeviceSampling
