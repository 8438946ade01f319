/-
# Reading YAML

The graph of a document is built up from its root, level by level: scalars at once, collections
after all that stands on their level.  So of several faults the one on the higher level counts,
and on one level the one that stands first.

* a key is a scalar; one that comes again keeps its place and takes the last value;
* a merge key brings in the entries of other mappings, in front of the mapping's own, and of
  several mappings the first counts.  This is done in the graph when a mapping is built, so that a
  node that has an alias is seen with its merge keys before, and without them after;
* `Yaml.read` decodes a text; no document at all is null.

There is no limit on how deep a text nests, where an interpreter whose recursion has one breaks off.
Only what would go on for ever is a fault of its own here.
-/
import DeviceSampling.Yaml.Graph
import DeviceSampling.Yaml.Scalar
import DeviceSampling.Yaml.Token.Lexer

namespace DeviceSampling
namespace Yaml

/-! ## 1. Faults -/

/-- Why a text cannot be decoded. -/
inductive ReadFault where
  /-- The text is not a YAML document, or a node does not suit its tag. -/
  | malformed
  /-- An escape is for a number that no character has. -/
  | noCharacter
  /-- An escape is for a number of more than 31 bits. -/
  | hugeCharacter
  /-- A version number has too many digits. -/
  | version (fault : Numeral.IntegerFault)
  /-- The text of a scalar has no value under its tag. -/
  | scalar (fault : ScalarFault)
  /-- A mapping stands for the scalar under its value key, and that in the end for the mapping. -/
  | endless
  deriving DecidableEq, Repr

/-- A scan fault as a fault of reading. -/
def ReadFault.ofScan : ScanFault → ReadFault
  | .malformed => .malformed
  | .noCharacter => .noCharacter
  | .hugeCharacter => .hugeCharacter
  | .version fault => .version fault

/-- The message of a fault; a malformed text has none. -/
def ReadFault.message : ReadFault → String
  | .malformed => ""
  | .noCharacter => "chr() arg not in range(0x110000)"
  | .hugeCharacter => "Python int too large to convert to C int"
  | .version fault => fault.message
  | .scalar fault => fault.message
  | .endless => "maximum recursion depth exceeded"

/-- Whether the fault is one of a value, in a text that is YAML. -/
def ReadFault.isBadValue : ReadFault → Bool
  | .malformed | .hugeCharacter | .endless => false
  | .noCharacter | .version _ => true
  | .scalar fault => fault.isBadValue

/-! ## 2. Scalars -/

namespace Graph

/-- The text that a node stands for as a scalar.  A mapping stands for the scalar under its value
key.  Whoever has come through more nodes than there are will come through them again. -/
def scalarText (g : Graph) : Nat → NodeId → Except ReadFault String
  | 0, _ => .error .endless
  | steps + 1, id =>
    match (g.node id).content with
    | .scalar text => .ok text
    | .sequence _ => .error .malformed
    | .mapping entries =>
      match entries.find? fun e => (g.node e.1).tag = .value with
      | some (_, value) => scalarText g steps value
      | none => .error .malformed

/-- A conversion of a scalar. -/
def convert {α : Type} (r : Except ScalarFault α) : Except ReadFault α :=
  match r with
  | .ok a => .ok a
  | .error fault => .error (.scalar fault)

/-- The value of a node under a scalar tag, and nothing under the tag of a collection. -/
def scalar? (g : Graph) (id : NodeId) (tag : Tag) : Except ReadFault (Option Value) := do
  let text := g.scalarText (g.nodes.size + 1) id
  match tag with
  | .sequence | .mapping | .set | .pairs | .orderedMapping => return none
  | .merge | .value | .unknown => throw .malformed
  | .null => let _ ← text; return some .null
  | .bool => return some (.bool (← convert (readTruth (← text))))
  | .int => return some (.int (← convert (readInteger (← text))))
  | .float => return some (.double (← convert (readDouble (← text))))
  | .text => return some (.text (← text))
  | .binary =>
    match readBytes? (← text) with
    | some bytes => return some (.bytes bytes)
    | none => throw .malformed
  | .timestamp =>
    let s ← text
    match (g.node id).content with
    | .scalar _ => return some (← convert (readTimestamp s))
    | _ => throw (.scalar .timestampText)

/-- Whether an entry has the merge key. -/
def isMerge (g : Graph) (e : NodeId × NodeId) : Bool := (g.node e.1).tag = .merge

/-- The number of entries with the merge key. -/
def mergeCount (g : Graph) : Nat :=
  g.nodes.foldl (fun count n =>
    match n.content with
    | .mapping entries => count + entries.countP g.isMerge
    | .scalar _ | .sequence _ => count) 0

end Graph

/-! ## 3. Building values -/

/-- What a node is built into. -/
inductive Built where
  | scalar (v : Value)
  | list (items : List NodeId)
  | pairs (items : List (NodeId × NodeId))
  | set (members : List Value)
  | mapping (entries : List (Value × NodeId))

/-- The state of building: the graph, in which entries are merged on the way, what its nodes are
built into, and the collections whose entries are still to be built, first come first. -/
structure Builder where
  graph : Graph
  built : Array (Option Built)
  waiting : List NodeId := []

/-- A part of building. -/
abbrev Build (α : Type) : Type := StateT Builder (Except ReadFault) α

namespace Build

/-- The node with a number. -/
def node (id : NodeId) : Build Node := return (← get).graph.node id

/-- Changes a node. -/
def update (id : NodeId) (change : Node → Node) : Build Unit :=
  modify fun s => { s with graph := { s.graph with nodes := s.graph.nodes.modify id change } }

/-- Says what a node is built into. -/
def put (id : NodeId) (b : Built) : Build Unit :=
  modify fun s => { s with built := s.built.setIfInBounds id (some b) }

/-- What a node is built into as a scalar, if it is. -/
def scalar? (id : NodeId) : Build (Option Value) := do
  match (← get).built[id]?.join with
  | some (.scalar v) => return some v
  | _ => return none

/-- Builds a node, unless it is built already; the entries of a collection wait. -/
def start (id : NodeId) : Build Unit := do
  let s ← get
  if s.built[id]?.join.isSome then return
  match ← s.graph.scalar? id (s.graph.node id).tag with
  | some v => put id (.scalar v)
  | none =>
    put id (.list [])
    modify fun s => { s with waiting := s.waiting ++ [id] }

/-- Builds a key, which is a scalar. -/
def startKey (id : NodeId) : Build Value := do
  start id
  match ← scalar? id with
  | some v => return v
  | none => throw .malformed

/-! ### Mappings -/

/-- The entries of a mapping. -/
def entries (id : NodeId) : Build (List (NodeId × NodeId)) := do
  match (← node id).content with
  | .mapping entries => return entries
  | .scalar _ | .sequence _ => throw .malformed

/-- Gives a mapping other entries. -/
def setEntries (id : NodeId) (entries : List (NodeId × NodeId)) : Build Unit :=
  update id fun n => { n with content := .mapping entries }

/-- Puts the entries of other mappings in the place of the merge keys of a mapping; `merged` are
those there are so far.  A merge key is taken out before its mappings are looked at, so every step
has one less to go.  A value key is a text from here on. -/
def flatten : Nat → NodeId → List (NodeId × NodeId) → Build Unit
  | 0, _, _ => throw .malformed
  | steps + 1, id, merged => do
    let own ← entries id
    let isMerge := (← get).graph.isMerge
    let flattened (source : NodeId) : Build (List (NodeId × NodeId)) := do
      flatten steps source []
      entries source
    match own.find? isMerge with
    | some (_, source) =>
      setEntries id (own.eraseP isMerge)
      let more ← match (← node source).content with
        | .mapping _ => flattened source
        | .sequence sources => pure (← sources.mapM flattened).reverse.flatten
        | .scalar _ => throw .malformed
      flatten steps id (merged ++ more)
    | none =>
      own.forM fun e => update e.1 fun n => if n.tag = .value then { n with tag := .text } else n
      setEntries id (merged ++ own)

/-- Writes an entry of a mapping whose values are nodes. -/
def putEntry (key : Value) (id : NodeId) : List (Value × NodeId) → List (Value × NodeId)
  | [] => [(key, id)]
  | (k, v) :: rest => if k.sameKey key then (k, id) :: rest else (k, v) :: putEntry key id rest

/-- Builds the entries of a mapping. -/
def startEntries (id : NodeId) : Build (List (Value × NodeId)) := do
  flatten ((← get).graph.mergeCount + 1) id []
  (← entries id).foldlM (fun done e => do
    let key ← startKey e.1
    start e.2
    return putEntry key e.2 done) []

/-! ### Collections -/

/-- Builds the only entry of a mapping in a list of pairs. -/
def startPair (id : NodeId) : Build (NodeId × NodeId) := do
  match ← entries id with
  | [(key, value)] =>
    start key
    start value
    return (key, value)
  | _ => throw .malformed

/-- Builds the entries of a collection. -/
def finish (id : NodeId) : Build Unit := do
  let n ← node id
  match n.tag, n.content with
  | .sequence, .sequence items =>
    items.forM start
    put id (.list items)
  | .mapping, .mapping _ => put id (.mapping (← startEntries id))
  | .set, .mapping _ => put id (.set ((← startEntries id).map (·.1)))
  | .pairs, .sequence items | .orderedMapping, .sequence items =>
    put id (.pairs (← items.mapM startPair))
  | _, _ => throw .malformed

/-- Builds all that waits.  Every node waits once at most. -/
def finishAll : Nat → Build Unit
  | 0 => return
  | steps + 1 => do
    match (← get).waiting with
    | [] => return
    | id :: rest =>
      modify fun s => { s with waiting := rest }
      finish id
      finishAll steps

end Build

/-! ## 4. Unrolling -/

/-- The value of a node at a depth below the root, with the collections around it.  A collection
inside itself is cut off where it comes again; but the root and the collections right under it
are followed anew, so that all down to the third level is whole. -/
def unroll (built : Array (Option Built)) : Nat → Nat → List NodeId → NodeId → Value
  | 0, _, _, _ => .null
  | steps + 1, depth, around, id =>
    let inside := if depth < 2 then around else id :: around
    let child (c : NodeId) : Value := unroll built steps (depth + 1) inside c
    match built[id]?.join with
    | none => .null
    | some (.scalar v) => v
    | some (.set members) => .set members
    | some (.list items) => if id ∈ around then .cycle false else .list (items.map child)
    | some (.pairs items) =>
      if id ∈ around then .cycle false
      else .list (items.map fun e => .pair (child e.1) (child e.2))
    | some (.mapping entries) =>
      if id ∈ around then .cycle true
      else .mapping (entries.map fun e => (e.1, child e.2))

/-- The value of a graph. -/
def Graph.value (g : Graph) : Except ReadFault Value := do
  let build : Build Unit := do
    Build.start g.root
    Build.finishAll (g.nodes.size + 1)
  let (_, s) ← build.run { graph := g, built := Array.replicate g.nodes.size none }
  return unroll s.built (g.nodes.size + 3) 0 [] g.root

/-- Decodes a text whose lines end in line feeds. -/
def readChars (cs : List Char) : Except ReadFault Value :=
  if !cs.all isAllowed then .error .malformed
  else match Graph.ofTokens (tokens cs) with
    | .error f => .error (.ofScan f)
    | .ok none => .ok .null
    | .ok (some g) => g.value

/-- Decodes a text whose lines end in line feeds. -/
def read (text : String) : Except ReadFault Value := readChars text.toList

end Yaml
end DeviceSampling
