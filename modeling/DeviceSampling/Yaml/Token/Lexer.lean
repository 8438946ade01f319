/-
# Cutting YAML into tokens

The lexer goes through a text once.  It keeps the columns of the open block collections and, for
each open flow collection and what is around all of them, the place where a KEY MAY HAVE BEGUN:
only a colon later on shows that one has, and then the marks for it are put in at that place.

A key must be on one line and not longer than 1024 characters.  In block context a key that
begins where the entries of the collection stand is required: no colon is a fault.

* `Lexer.step` takes one token;
* `tokens` cuts a whole text.  What stands before a place where a key may have begun is settled,
  what stands after it is not: a fault hides it.
-/
import DeviceSampling.Yaml.Token.Block
import DeviceSampling.Yaml.Token.Name
import DeviceSampling.Yaml.Token.Plain
import DeviceSampling.Yaml.Token.Quoted

namespace DeviceSampling
namespace Yaml

/-! ## 1. States -/

/-- A place where a key may have begun. -/
structure PossibleKey where
  /-- The number of tokens before it. -/
  before : Nat
  required : Bool
  index : Nat
  line : Nat
  column : Nat
  deriving Repr

/-- The state of the lexer. -/
structure Lexer where
  cursor : Cursor
  /-- The tokens so far, last first. -/
  tokens : List Token := []
  /-- The columns of the open block collections, innermost first. -/
  indents : List Nat := []
  /-- Where a key may have begun in each flow collection around, innermost first. -/
  inner : List (Option PossibleKey) := []
  /-- Where a key may have begun outside of all flow collections. -/
  outer : Option PossibleKey := none
  /-- Whether a key may begin here. -/
  keyAllowed : Bool := true

namespace Lexer

/-- Whether the place is in a flow collection. -/
def inFlow (s : Lexer) : Bool := !s.inner.isEmpty

/-- Where a key may have begun in the innermost collection. -/
def possibleKey (s : Lexer) : Option PossibleKey :=
  match s.inner with
  | [] => s.outer
  | k :: _ => k

/-- The state with another place where a key may have begun. -/
def withPossibleKey (s : Lexer) (k : Option PossibleKey) : Lexer :=
  match s.inner with
  | [] => { s with outer := k }
  | _ :: rest => { s with inner := k :: rest }

/-- The state with one more token. -/
def push (s : Lexer) (t : Token) : Lexer := { s with tokens := t :: s.tokens }

/-- The state with a token put in after the first `before` ones. -/
def putIn (s : Lexer) (before : Nat) (t : Token) : Lexer :=
  { s with tokens := s.tokens.insertIdx (s.tokens.length - before) t }

/-! ## 2. Keys -/

/-- Whether a place is too far back for a key. -/
def isStale (c : Cursor) (k : PossibleKey) : Bool := k.line ≠ c.line || 1024 < c.index - k.index

/-- Forgets a place that is too far back; a required key is then a fault. -/
def refresh (c : Cursor) : Option PossibleKey → Scan (Option PossibleKey)
  | none => .ok none
  | some k =>
    if isStale c k then if k.required then .error .malformed else .ok none
    else .ok (some k)

/-- Forgets the places that are too far back. -/
def dropStale (s : Lexer) : Scan Lexer := do
  let outer ← refresh s.cursor s.outer
  let inner ← s.inner.mapM (refresh s.cursor)
  return { s with outer, inner }

/-- Gives the possible key of the innermost collection up; a required one is then a fault. -/
def dropKey (s : Lexer) : Scan Lexer :=
  match s.possibleKey with
  | none => .ok s
  | some k => if k.required then .error .malformed else .ok (s.withPossibleKey none)

/-- Marks the place as one where a key may begin, if keys are allowed. -/
def markKey (s : Lexer) : Scan Lexer :=
  if s.keyAllowed then do
    let s' ← s.dropKey
    return s'.withPossibleKey (some
      { before := s.tokens.length
        required := !s.inFlow && s.indents.head? = some s.cursor.column
        index := s.cursor.index
        line := s.cursor.line
        column := s.cursor.column })
  else .ok s

/-! ## 3. Indentation -/

/-- Ends the open block collections deeper than a column. -/
def endBlocks (column : Nat) (tokens : List Token) : List Nat → List Token × List Nat
  | [] => (tokens, [])
  | i :: rest =>
    if column < i then endBlocks column (.blockEnd :: tokens) rest else (tokens, i :: rest)

/-- Ends the block collections that are deeper than the place. -/
def unwind (s : Lexer) : Lexer :=
  if s.inFlow then s
  else
    let (tokens, indents) := endBlocks s.cursor.column s.tokens s.indents
    { s with tokens, indents }

/-- Ends all block collections. -/
def unwindAll (s : Lexer) : Lexer :=
  if s.inFlow then s
  else { s with tokens := s.indents.map (fun _ => Token.blockEnd) ++ s.tokens, indents := [] }

/-- Opens a block collection at a column, after the first `before` tokens, unless one is open
there already. -/
def openBlock (s : Lexer) (t : Token) (column before : Nat) : Lexer :=
  if s.indents.all (· < column) then { s.putIn before t with indents := column :: s.indents }
  else s

/-- Opens a block collection here. -/
def openBlockHere (s : Lexer) (t : Token) : Lexer :=
  s.openBlock t s.cursor.column s.tokens.length

/-! ## 4. Tokens -/

/-- Goes over spaces, comments and breaks.  In block context a key may begin on a new line. -/
def skipBlank : Nat → Lexer → Lexer
  | 0, s => s
  | steps + 1, s =>
    let afterSpaces := s.cursor.skip (· = ' ')
    let afterComment :=
      if afterSpaces.peek = some '#' then afterSpaces.skip (!isBreak ·) else afterSpaces
    if afterComment.peek.any isBreak then
      skipBlank steps
        { s with
          cursor := afterComment.lineBreak.2
          keyAllowed := s.keyAllowed || !s.inFlow }
    else { s with cursor := afterComment }

/-- Takes `n` characters as a token. -/
def take (s : Lexer) (n : Nat) (t : Token) : Lexer :=
  { s with cursor := s.cursor.advanceBy n, tokens := t :: s.tokens }

/-- A directive or the marker of a document, in front of which everything ends. -/
def atTop (s : Lexer) : Scan Lexer := do
  let s' ← s.unwindAll.dropKey
  return { s' with keyAllowed := false }

/-- A directive. -/
def directive (s : Lexer) : Scan Lexer := do
  let s' ← s.atTop
  let (d, c) ← scanDirective s'.cursor
  return { s' with cursor := c, tokens := .directive d :: s'.tokens }

/-- The end of the text. -/
def finish (s : Lexer) : Scan Lexer := do
  let s' ← s.atTop
  return { s'.push .streamEnd with outer := none, inner := [] }

/-- The start of a flow collection. -/
def openFlow (s : Lexer) (t : Token) : Scan Lexer := do
  let s' ← s.markKey
  return { s'.take 1 t with inner := none :: s'.inner, keyAllowed := true }

/-- The end of a flow collection. -/
def closeFlow (s : Lexer) (t : Token) : Scan Lexer := do
  let s' ← s.dropKey
  return { s'.take 1 t with inner := s'.inner.tail, keyAllowed := false }

/-- A comma. -/
def comma (s : Lexer) : Scan Lexer := do
  let s' ← s.dropKey
  return { s'.take 1 .comma with keyAllowed := true }

/-- The dash of an entry. -/
def entry (s : Lexer) : Scan Lexer := do
  if !s.inFlow && !s.keyAllowed then throw .malformed
  let s' := if s.inFlow then s else s.openBlockHere .blockSequence
  let s'' ← s'.dropKey
  return { s''.take 1 .entry with keyAllowed := true }

/-- The question mark of a key. -/
def key (s : Lexer) : Scan Lexer := do
  if !s.inFlow && !s.keyAllowed then throw .malformed
  let s' := if s.inFlow then s else s.openBlockHere .blockMapping
  let s'' ← s'.dropKey
  return { s''.take 1 .key with keyAllowed := !s.inFlow }

/-- The colon of a value.  If a key may have begun, it has. -/
def value (s : Lexer) : Scan Lexer :=
  match s.possibleKey with
  | some k =>
    let s' := (s.withPossibleKey none).putIn k.before .key
    let s'' := if s.inFlow then s' else s'.openBlock .blockMapping k.column k.before
    return { s''.take 1 .value with keyAllowed := false }
  | none => do
    if !s.inFlow && !s.keyAllowed then throw .malformed
    let s' := if s.inFlow then s else s.openBlockHere .blockMapping
    return { s'.take 1 .value with keyAllowed := !s.inFlow }

/-- Something that may begin a key: `scan` reads it. -/
def maybeKey (s : Lexer) (scan : Cursor → Scan (Token × Cursor)) : Scan Lexer := do
  let s' ← s.markKey
  let (t, c) ← scan s'.cursor
  return { s' with cursor := c, tokens := t :: s'.tokens, keyAllowed := false }

/-- A plain scalar.  If a line ended after it, a key may begin at the place reached. -/
def plain (s : Lexer) : Scan Lexer := do
  let s' ← s.markKey
  let indent := match s.indents with
    | [] => 0
    | i :: _ => i + 1
  let (text, broken, c) := scanPlain s.inFlow indent s'.cursor
  return { s' with
    cursor := c, tokens := .scalar (String.ofList text) true :: s'.tokens, keyAllowed := broken }

/-- A block scalar. -/
def block (s : Lexer) (folded : Bool) : Scan Lexer := do
  let s' ← s.dropKey
  let least := match s.indents with
    | [] => 0
    | i :: _ => i + 1
  let (text, c) ← scanBlock folded least s'.cursor
  return { s' with
    cursor := c, tokens := .scalar (String.ofList text) false :: s'.tokens, keyAllowed := true }

/-- Whether a plain scalar may begin with a character, given the one after it. -/
def startsPlain (inFlow : Bool) (ch : Char) (next : Option Char) : Bool :=
  if ch = '-' then !endsWord next
  else if ch = '?' || ch = ':' then !inFlow && !endsWord next
  else !(endsWord (some ch) || ch ∈ flowMarks ||
    ch ∈ ['#', '&', '*', '!', '|', '>', '\'', '"', '%', '@', '\x60'])

/-- A token that begins with a character. -/
def fetch (s : Lexer) (ch : Char) : Scan Lexer :=
  let next := s.cursor.peekAt 1
  let atStart := s.cursor.column = 0
  if ch = '%' && atStart then s.directive
  else if atStart && s.cursor.atMarker '-' then
    return (← s.atTop).take 3 .documentStart
  else if atStart && s.cursor.atMarker '.' then
    return (← s.atTop).take 3 .documentEnd
  else if ch = '[' then s.openFlow .flowSequence
  else if ch = '\x7b' then s.openFlow .flowMapping
  else if ch = ']' then s.closeFlow .flowSequenceEnd
  else if ch = '\x7d' then s.closeFlow .flowMappingEnd
  else if ch = ',' then s.comma
  else if ch = '-' && endsWord next then s.entry
  else if ch = '?' && (s.inFlow || endsWord next) then s.key
  else if ch = ':' && (s.inFlow || endsWord next) then s.value
  else if ch = '*' then
    s.maybeKey fun c => do
      let (name, c') ← scanName c.advance
      return (.alias name, c')
  else if ch = '&' then
    s.maybeKey fun c => do
      let (name, c') ← scanName c.advance
      return (.anchor name, c')
  else if ch = '!' then
    s.maybeKey fun c => do
      let (name, c') ← scanTag c
      return (.tag name, c')
  else if (ch = '|' || ch = '>') && !s.inFlow then s.block (ch = '>')
  else if ch = '\'' || ch = '"' then
    s.maybeKey fun c => do
      let (text, c') ← scanQuoted (ch = '"') c
      return (.scalar (String.ofList text) false, c')
  else if startsPlain s.inFlow ch next then s.plain
  else throw .malformed

/-- Takes one token; true at the end of the text. -/
def step (s : Lexer) : Scan (Lexer × Bool) := do
  let s₁ ← (skipBlank (s.cursor.rest.length + 1) s).dropStale
  let s₂ := s₁.unwind
  match s₂.cursor.peek with
  | none => return (← s₂.finish, true)
  | some ch => return (← s₂.fetch ch, false)

/-- The tokens that are settled: those before every place where a key may have begun. -/
def settled (s : Lexer) : List Token :=
  let befores := (s.outer :: s.inner).filterMap (·.map PossibleKey.before)
  s.tokens.reverse.take (befores.foldl min s.tokens.length)

/-- The tokens from a state on.  Every step takes a character at least. -/
def run : Nat → Lexer → List Token
  | 0, s => s.tokens.reverse
  | steps + 1, s =>
    match s.dropStale with
    | .error f => s.tokens.reverse ++ [.fault f]
    | .ok s' =>
      match s'.step with
      | .error f => s'.settled ++ [.fault f]
      | .ok (s'', true) => s''.tokens.reverse
      | .ok (s'', false) => run steps s''

end Lexer

/-- The tokens of a text. -/
def tokens (cs : List Char) : List Token :=
  let c : Cursor := ⟨cs, 0, 0, 0⟩
  let c' := if cs.head? = some '\uFEFF' then c.advance else c
  Lexer.run (cs.length + 1) { cursor := c' }

end Yaml
end DeviceSampling
