/-
# Plain scalars

A scalar without quotes runs to the end of its line, or to a mark that ends it: a colon before a
blank, a comment, in a flow collection also the marks of the collection.  It goes on in the lines
below as long as they are indented.

* `scanPlain` reads a plain scalar; a line break before the place reached lets a key follow.
-/
import DeviceSampling.Yaml.Token

namespace DeviceSampling
namespace Yaml

/-- The marks of a flow collection that end a word in it. -/
def flowMarks : List Char := [',', '[', ']', '\x7b', '\x7d']

/-- Whether a plain scalar ends before a character, given the one after it. -/
def stopsPlain (inFlow : Bool) (c : Char) (next : Option Char) : Bool :=
  endsWord (some c) ||
    (c = ':' && (endsWord next || (inFlow && next.any (· ∈ flowMarks)))) ||
    (inFlow && (c = '?' || c ∈ flowMarks))

/-- The characters of a plain scalar up to a gap, a break, or its end. -/
def plainRun (inFlow : Bool) : List Char → List Char
  | [] => []
  | c :: rest => if stopsPlain inFlow c rest.head? then [] else c :: plainRun inFlow rest

/-- Goes over spaces and empty lines at the beginning of a line: the breaks, and the place
reached.  Nothing where a document ends. -/
def plainBreaks : Nat → Cursor → Option (List Char) × Cursor
  | 0, c => (some [], c)
  | steps + 1, c =>
    match c.peek with
    | some ' ' => plainBreaks steps c.advance
    | some ch =>
      if isBreak ch then
        let (first, c') := c.lineBreak
        if c'.atDocumentEdge then (none, c')
        else
          let (more, c'') := plainBreaks steps c'
          (more.map (first ++ ·), c'')
      else (some [], c)
    | none => (some [], c)

/-- What stands between two runs of a plain scalar. -/
structure PlainGap where
  /-- What the gap stands for; nothing if the scalar ends before it. -/
  text : List Char
  /-- Whether a line ends in the gap. -/
  broken : Bool
  cursor : Cursor

/-- The gap after a run of a plain scalar. -/
def plainGap (c : Cursor) : PlainGap :=
  let (spaces, c₁) := c.spanning (· = ' ')
  if c₁.peek.any isBreak then
    let (first, c₂) := c₁.lineBreak
    if c₂.atDocumentEdge then ⟨[], true, c₂⟩
    else
      match plainBreaks c₂.rest.length c₂ with
      | (none, c₃) => ⟨[], true, c₃⟩
      | (some more, c₃) => ⟨foldBreaks first more, true, c₃⟩
  else ⟨spaces, false, c₁⟩

/-- The rest of a plain scalar after the gap `before`; lines must be indented by `indent` columns
at least, except in a flow collection.  Every run takes a character at least. -/
def plainFrom (inFlow : Bool) (indent : Nat) : Nat → PlainGap → List Char × Bool × Cursor
  | 0, before => ([], before.broken, before.cursor)
  | steps + 1, before =>
    let c := before.cursor
    let run := if c.peek = some '#' then [] else plainRun inFlow c.rest
    if run.isEmpty then ([], before.broken, c)
    else
      let gap := plainGap (c.advanceBy run.length)
      if gap.text.isEmpty || gap.cursor.peek = some '#' ||
          (!inFlow && gap.cursor.column < indent) then
        (before.text ++ run, gap.broken, gap.cursor)
      else
        let (more, broken, c') := plainFrom inFlow indent steps gap
        (before.text ++ run ++ more, broken, c')

/-- A plain scalar, whether a line ended after its last character, and the place after it. -/
def scanPlain (inFlow : Bool) (indent : Nat) (c : Cursor) : List Char × Bool × Cursor :=
  plainFrom inFlow indent c.rest.length ⟨[], false, c⟩

end Yaml
end DeviceSampling
