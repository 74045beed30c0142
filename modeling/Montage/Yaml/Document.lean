import Montage.Yaml.Scalar
import Montage.Yaml.TokenReader

/-!
# Documents

The value of a YAML text, as far as a reader of settings looks into it: a scalar, or the entries of
a mapping with scalar keys. Nested collections are only checked to have a value.

Each node gets its value once. A collection has its value before its parts have theirs, which come
later in the order in which the collections were met. Merging changes the entries of a mapping for
good, for all places where it stands.
-/

namespace Montage.Yaml

/-- The kinds that a collection may have. -/
def Tag.isCollection (t : Tag) : Bool :=
  t ∈ [.sequence, .mapping, .orderedMapping, .pairs, .set]

/-- The kinds that no value can have: tags without meaning, and the marks of special keys. -/
def Tag.hasNoValue (t : Tag) : Bool := t ∈ [.merge, .default, .unknown]

/-- Nodes that are being given their values. -/
structure Valuation where
  graph : Graph
  /-- The values so far, by the numbers of their nodes. -/
  values : Array (Option Content)
  /-- The collections whose parts have no values yet, the last one first. -/
  waiting : List Nat

/-- A step of giving nodes their values. -/
abbrev Valuing := StateT Valuation (Except Fault)

namespace Valuing

/-- The length at which a chain of mappings that refer to each other by merging or as defaults is
given up. -/
def chainLimit : Nat := 980

def node (id : Nat) : Valuing Node := return (← get).graph.node id

def setNode (id : Nat) (n : Node) : Valuing Unit :=
  modify fun v => { v with graph := v.graph.set id n }

def require (b : Bool) : Valuing Unit := unless b do throw .malformed

/-! ### Merged entries -/

/-- Takes the first entry with a merge key out of a mapping and gives its value. -/
def takeMerge? (id : Nat) : Valuing (Option Nat) := do
  let g := (← get).graph
  let n := g.node id
  match n.entries.span fun (key, _) => (g.node key).tag != .merge with
  | (before, (_, value) :: after) => do
    setNode id { n with shape := .mapping (before ++ after) }
    return some value
  | (_, []) => return none

/-- Makes the default keys of a mapping ordinary texts. -/
def settleDefaults (id : Nat) : Valuing Unit := do
  for (key, _) in (← node id).entries do
    let k ← node key
    if k.tag == .default then setNode key { k with tag := .text }

/-- Puts the entries that the merge keys of a mapping name in front of its own, and gives all.
Merged mappings are treated so before. Of a sequence of mappings, the last comes first. -/
def flatten : Nat → Nat → Valuing (List (Nat × Nat))
  | 0, _ => throw .tooDeep
  | limit + 1, id => do
    let g := (← get).graph
    let count := (g.node id).entries.countP fun (key, _) => (g.node key).tag == .merge
    let mut merged := []
    for _ in List.range count do
      if let some source ← takeMerge? id then
        match (← node source).shape with
        | .mapping _ => merged := (← flatten limit source) :: merged
        | .sequence items =>
          let mut group := []
          for item in items do
            require ((← node item).shape matches .mapping _)
            group := (← flatten limit item) :: group
          merged := group.reverse ++ merged
        | .scalar _ => throw .malformed
    settleDefaults id
    let n ← node id
    let entries := merged.reverse.flatten ++ n.entries
    setNode id { n with shape := .mapping entries }
    return entries

/-! ### Values -/

/-- The text of a node that has to be a scalar. A mapping stands for the value of its default
key. -/
def scalarText : Nat → Nat → Valuing String
  | 0, _ => throw .tooDeep
  | limit + 1, id => do
    let g := (← get).graph
    match (g.node id).shape with
    | .scalar text => return text
    | .sequence _ => throw .malformed
    | .mapping entries =>
      match entries.find? fun (key, _) => (g.node key).tag == .default with
      | some (_, value) => scalarText limit value
      | none => throw .malformed

/-- The value of a node that is no collection. -/
def scalar (id : Nat) : Valuing Scalar := do
  let n ← node id
  require !n.tag.hasNoValue
  let text ← scalarText chainLimit id
  if n.tag == .timestamp && n.shape matches .mapping _ then throw .momentMapping
  Scalar.ofText n.tag text

def content (id : Nat) : Valuing Content := do
  match (← get).values.getD id none with
  | some value => return value
  | none => do
    let value ← do
      if (← node id).tag.isCollection then
        modify fun v => { v with waiting := id :: v.waiting }
        pure .collection
      else pure (.scalar (← scalar id))
    modify fun v => { v with values := v.values.setIfInBounds id (some value) }
    return value

/-- The value of a key, which must be a scalar. -/
def keyScalar (id : Nat) : Valuing Scalar := do
  match ← content id with
  | .scalar s => return s
  | .collection => throw .malformed

def entry (key value : Nat) : Valuing (Scalar × Content) := do
  return (← keyScalar key, ← content value)

/-- Gives the parts of a pair of an ordered mapping their values. -/
def pair (id : Nat) : Valuing Unit := do
  match (← node id).shape with
  | .mapping [(key, value)] => do
    discard (content key)
    discard (content value)
  | _ => throw .malformed

/-- Gives the parts of a collection their values; those of a mapping or a set are its entries. -/
def parts (id : Nat) : Valuing (List (Scalar × Content)) := do
  let n ← node id
  match n.tag, n.shape with
  | .mapping, .mapping _
  | .set, .mapping _ => (← flatten chainLimit id).mapM fun (key, value) => entry key value
  | .sequence, .sequence items => do
    items.forM fun item => discard (content item)
    return []
  | .orderedMapping, .sequence items
  | .pairs, .sequence items => do
    items.forM pair
    return []
  | _, _ => throw .malformed

/-- Gives the parts of all waiting collections their values, and the parts of these, and so on; no
collection waits twice, so the number of nodes bounds the number of rounds. -/
def finish : Nat → Valuing Unit
  | 0 => return
  | rounds + 1 => do
    let waiting := (← get).waiting.reverse
    unless waiting.isEmpty do
      modify fun v => { v with waiting := [] }
      waiting.forM fun id => discard (parts id)
      finish rounds

def document (root : Nat) : Valuing Document := do
  match ← content root with
  | .scalar s => return .scalar s
  | .collection => do
    modify fun v => { v with waiting := [] }
    let entries ← parts root
    finish (← get).graph.size
    return if (← node root).tag == .mapping then .mapping entries else .other

end Valuing

namespace Document

def ofGraph (g : Graph) (root : Nat) : Except Fault Document :=
  (Valuing.document root).run' ⟨g, Array.replicate g.size none, []⟩

/-- The value of a text that holds at most one document; the value of no document is null. -/
def ofInput (input : Input) : Except Fault Document := do
  match ← Graph.ofTokens (.ofInput input) with
  | none => return .scalar .null
  | some (g, root) => ofGraph g root

end Document

def read : Reader := fun bytes => Document.ofInput (.ofBytes bytes)

end Montage.Yaml
