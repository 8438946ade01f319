/-
# The graph of a YAML document

A document is a graph of nodes: scalars, sequences and mappings, each with a tag.  An alias is one
more edge to a node that has an anchor, so a collection may be inside itself.

* `Graph.ofTokens` composes the graph of the only document of a text, if there is one.  The
  tokens are looked at in order and no further than needed, so the first fault counts.
-/
import DeviceSampling.Yaml.Tag
import DeviceSampling.Yaml.Token

namespace DeviceSampling
namespace Yaml

/-! ## 1. Graphs -/

/-- A node, by its number. -/
abbrev NodeId : Type := Nat

/-- What a node holds. -/
inductive Content where
  | scalar (text : String)
  | sequence (items : List NodeId)
  | mapping (entries : List (NodeId × NodeId))
  deriving DecidableEq, Repr

/-- A node. -/
structure Node where
  tag : Tag
  content : Content
  deriving DecidableEq, Repr

/-- An empty plain scalar. -/
def Node.empty : Node := ⟨.null, .scalar ""⟩

instance : Inhabited Node := ⟨.empty⟩

/-- The graph of a document. -/
structure Graph where
  nodes : Array Node
  root : NodeId

/-- The node with a number. -/
def Graph.node (g : Graph) (id : NodeId) : Node := g.nodes[id]?.getD .empty

/-! ## 2. Composing -/

/-- The state of a composition. -/
structure Composer where
  tokens : List Token
  nodes : Array Node := #[]
  anchors : List (String × NodeId) := []
  /-- What the tag handles stand for. -/
  handles : List (String × String) := []

/-- A part of a composition. -/
abbrev Compose (α : Type) : Type := StateT Composer (Except ScanFault) α

namespace Compose

/-- The text is no document. -/
def malformed {α : Type} : Compose α := throw .malformed

/-- The next token. -/
def peek : Compose Token := do
  match (← get).tokens with
  | [] => return .streamEnd
  | .fault f :: _ => throw f
  | t :: _ => return t

/-- Goes over a token. -/
def advance : Compose Unit := modify fun s => { s with tokens := s.tokens.tail }

/-- Adds a node. -/
def add (n : Node) : Compose NodeId := do
  let id := (← get).nodes.size
  modify fun s => { s with nodes := s.nodes.push n }
  return id

/-- Adds an empty plain scalar. -/
def addEmpty : Compose NodeId := add .empty

/-- Fills a node in that was added before. -/
def fill (id : NodeId) (content : Content) : Compose Unit :=
  modify fun s => { s with nodes := s.nodes.modify id fun n => { n with content } }

/-! ### Properties -/

/-- What stands in front of a node. -/
structure Properties where
  anchor : Option String := none
  tag : Option TagName := none
  deriving DecidableEq

/-- Goes over an anchor, if there is one. -/
def anchor? : Compose (Option String) := do
  match ← peek with
  | .anchor name => advance; return some name
  | _ => return none

/-- Goes over a tag, if there is one. -/
def tag? : Compose (Option TagName) := do
  match ← peek with
  | .tag name => advance; return some name
  | _ => return none

/-- An anchor and a tag, in either order. -/
def properties : Compose Properties := do
  match ← anchor? with
  | some name => return ⟨some name, ← tag?⟩
  | none =>
    match ← tag? with
    | some name => return ⟨← anchor?, some name⟩
    | none => return {}

/-- The full text of a tag; the exclamation mark alone is none. -/
def fullTag (name : Option TagName) : Compose (Option String) := do
  match name with
  | none => return none
  | some ⟨none, suffix⟩ => return if suffix = "!" then none else some suffix
  | some ⟨some handle, suffix⟩ =>
    match (← get).handles.lookup handle with
    | none => malformed
    | some stem => return if stem ++ suffix = "!" then none else some (stem ++ suffix)

/-- Gives an anchor to the next node.  An anchor stands once. -/
def bind (anchor : Option String) (id : NodeId) : Compose Unit := do
  match anchor with
  | none => return
  | some name =>
    if ((← get).anchors.lookup name).isSome then malformed
    modify fun s => { s with anchors := (name, id) :: s.anchors }

/-- Adds a node with an anchor. -/
def addAnchored (anchor : Option String) (n : Node) : Compose NodeId := do
  let id ← add n
  bind anchor id
  return id

/-! ### Nodes -/

/-- Which collections may stand at a place. -/
inductive Position where
  /-- In a flow collection. -/
  | flow
  /-- In a block sequence or at the top. -/
  | block
  /-- In a block mapping, whose entries may be sequences that are not indented. -/
  | blockEntry
  deriving DecidableEq

/-- Whether a token ends an entry of a block mapping. -/
def endsBlockPair (t : Token) : Bool := t ∈ [.key, .value, .blockEnd]

/-- Whether a token ends an entry of a flow collection with the given end. -/
def endsFlowPart (close t : Token) : Bool := t = .comma || t = close

mutual

/-- A node. -/
def node : Nat → Position → Compose NodeId
  | 0, _ => malformed
  | steps + 1, position => do
    match ← peek with
    | .alias name =>
      advance
      match (← get).anchors.lookup name with
      | some id => return id
      | none => malformed
    | _ =>
      let p ← properties
      let full ← fullTag p.tag
      let tag (default : Tag) : Tag := (full.map Tag.ofText).getD default
      match ← peek, position with
      | .entry, .blockEntry =>
        let id ← addAnchored p.anchor ⟨tag .sequence, .sequence []⟩
        fill id (.sequence (← looseItems steps))
        return id
      | .scalar text plain, _ =>
        advance
        let implied := if plain || p.tag.isSome then Tag.ofPlain text else .text
        addAnchored p.anchor ⟨tag implied, .scalar text⟩
      | .flowSequence, _ =>
        let id ← addAnchored p.anchor ⟨tag .sequence, .sequence []⟩
        advance
        fill id (.sequence (← flowItems steps true))
        return id
      | .flowMapping, _ =>
        let id ← addAnchored p.anchor ⟨tag .mapping, .mapping []⟩
        advance
        fill id (.mapping (← flowPairs steps true))
        return id
      | .blockSequence, .block | .blockSequence, .blockEntry =>
        let id ← addAnchored p.anchor ⟨tag .sequence, .sequence []⟩
        advance
        fill id (.sequence (← blockItems steps))
        return id
      | .blockMapping, .block | .blockMapping, .blockEntry =>
        let id ← addAnchored p.anchor ⟨tag .mapping, .mapping []⟩
        advance
        fill id (.mapping (← blockPairs steps))
        return id
      | _, _ =>
        if p.anchor.isSome || p.tag.isSome then
          addAnchored p.anchor ⟨tag (Tag.ofPlain ""), .scalar ""⟩
        else malformed

/-- The entries of a sequence that is not indented. -/
def looseItems : Nat → Compose (List NodeId)
  | 0 => malformed
  | steps + 1 => do
    match ← peek with
    | .entry =>
      advance
      let next ← peek
      let id ← if next = .entry || endsBlockPair next then addEmpty else node steps .block
      return id :: (← looseItems steps)
    | _ => return []

/-- The entries of a block sequence. -/
def blockItems : Nat → Compose (List NodeId)
  | 0 => malformed
  | steps + 1 => do
    match ← peek with
    | .entry =>
      advance
      let next ← peek
      let id ← if next = .entry || next = .blockEnd then addEmpty else node steps .block
      return id :: (← blockItems steps)
    | .blockEnd => advance; return []
    | _ => malformed

/-- The entries of a block mapping. -/
def blockPairs : Nat → Compose (List (NodeId × NodeId))
  | 0 => malformed
  | steps + 1 => do
    match ← peek with
    | .key =>
      advance
      let key ← if endsBlockPair (← peek) then addEmpty else node steps .blockEntry
      let value ← match ← peek with
        | .value =>
          advance
          if endsBlockPair (← peek) then addEmpty else node steps .blockEntry
        | _ => addEmpty
      return (key, value) :: (← blockPairs steps)
    | .blockEnd => advance; return []
    | _ => malformed

/-- The value of an entry of a flow collection, after its key. -/
def flowValue : Nat → Token → Compose NodeId
  | 0, _ => malformed
  | steps + 1, close => do
    match ← peek with
    | .value =>
      advance
      if endsFlowPart close (← peek) then addEmpty else node steps .flow
    | _ => addEmpty

/-- The entries of a flow sequence; a key makes a mapping with one entry. -/
def flowItems : Nat → Bool → Compose (List NodeId)
  | 0, _ => malformed
  | steps + 1, first => do
    if (← peek) = .flowSequenceEnd then advance; return []
    if !first then
      if (← peek) = .comma then advance else malformed
    match ← peek with
    | .flowSequenceEnd => advance; return []
    | .key =>
      advance
      let next ← peek
      let key ← if next = .value || endsFlowPart .flowSequenceEnd next then addEmpty
        else node steps .flow
      let value ← flowValue steps .flowSequenceEnd
      let id ← add ⟨.mapping, .mapping [(key, value)]⟩
      return id :: (← flowItems steps false)
    | _ =>
      let id ← node steps .flow
      return id :: (← flowItems steps false)

/-- The entries of a flow mapping; a node that is no key has an empty value. -/
def flowPairs : Nat → Bool → Compose (List (NodeId × NodeId))
  | 0, _ => malformed
  | steps + 1, first => do
    if (← peek) = .flowMappingEnd then advance; return []
    if !first then
      if (← peek) = .comma then advance else malformed
    match ← peek with
    | .flowMappingEnd => advance; return []
    | .key =>
      advance
      let next ← peek
      let key ← if next = .value || endsFlowPart .flowMappingEnd next then addEmpty
        else node steps .flow
      let value ← flowValue steps .flowMappingEnd
      return (key, value) :: (← flowPairs steps false)
    | _ =>
      let key ← node steps .flow
      let value ← addEmpty
      return (key, value) :: (← flowPairs steps false)

end

/-! ### Documents -/

/-- What the tag handles stand for without directives. -/
def standardHandles : List (String × String) := [("!", "!"), ("!!", standardStem)]

/-- Goes over the directives: one version at most, whose first number is one, and each handle
once. -/
def directives : Nat → Bool → List (String × String) → Compose (List (String × String))
  | 0, _, _ => malformed
  | steps + 1, versioned, handles => do
    match ← peek with
    | .directive (.version major) =>
      advance
      if versioned || major ≠ 1 then malformed
      directives steps true handles
    | .directive (.handle handle stem) =>
      advance
      if (handles.lookup handle).isSome then malformed
      directives steps versioned ((handle, stem) :: handles)
    | .directive .other => advance; directives steps versioned handles
    | _ => return handles

/-- Goes over the markers of the end of a document. -/
def skipEnds : Nat → Compose Unit
  | 0 => return
  | steps + 1 => do
    if (← peek) = .documentEnd then advance; skipEnds steps

/-- The content of a document after its marker. -/
def content (steps : Nat) : Compose NodeId := do
  match ← peek with
  | .directive _ | .documentStart | .documentEnd | .streamEnd => addEmpty
  | _ => node steps .block

/-- The root of a document, if there is one. -/
def root? (steps : Nat) : Compose (Option NodeId) := do
  match ← peek with
  | .streamEnd => return none
  | .directive _ | .documentStart =>
    let handles ← directives steps false []
    modify fun s => { s with handles := handles ++ standardHandles }
    if (← peek) ≠ .documentStart then malformed
    advance
    return some (← content steps)
  | _ =>
    modify fun s => { s with handles := standardHandles }
    return some (← node steps .block)

/-- The root of the only document, if there is one. -/
def onlyRoot? (steps : Nat) : Compose (Option NodeId) := do
  match ← root? steps with
  | none => return none
  | some id =>
    skipEnds steps
    if (← peek) = .streamEnd then return some id
    else
      let _ ← directives steps false []
      malformed

end Compose

/-- The graph of the only document, if there is one.  Between two tokens there are at most two
steps further in. -/
def Graph.ofTokens (tokens : List Token) : Except ScanFault (Option Graph) :=
  match (Compose.onlyRoot? (3 * tokens.length + 3)).run { tokens } with
  | .error f => .error f
  | .ok (none, _) => .ok none
  | .ok (some root, s) => .ok (some ⟨s.nodes, root⟩)

end Yaml
end DeviceSampling
