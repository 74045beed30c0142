import Montage.Yaml.Graph
import Montage.Yaml.Layout

/-!
# Reading tokens as nodes

The grammar of YAML documents. Tokens are looked at one by one, and a token that cannot be read is a
fault only when it is looked at. The `fuel` of each reader is a bound on the tokens that are left.
-/

namespace Montage.Yaml

/-- Tokens that are being read as nodes. -/
structure TokenReader where
  input : TokenStream
  /-- The expansions of the tag handles. -/
  handles : List (String × String)
  /-- The nodes of the anchors so far. -/
  anchors : List (String × Nat)
  /-- The nodes so far. -/
  graph : Graph
  /-- How many collections are being read. -/
  depth : Nat

/-- A step of reading nodes. -/
abbrev Reading := StateT TokenReader (Except Fault)

namespace Reading

/-! ### Tokens -/

def require (b : Bool) : Reading Unit := unless b do throw .malformed

def look : Reading (Option Token) := do
  let input := (← get).input
  match input.tokens, input.fault with
  | t :: _, _ => return some t
  | [], some f => throw f
  | [], none => return none

def sees (ts : List Token) : Reading Bool := return (← look).any ts.contains

def advance : Reading Unit :=
  modify fun r => { r with input := { r.input with tokens := r.input.tokens.tail } }

/-! ### Tags and anchors -/

/-- The handles that every document has. -/
def standardHandles : List (String × String) := [("!", "!"), ("!!", Tag.standard)]

/-- The full name of a written tag. -/
def fullTag (t : WrittenTag) : Reading String := do
  match t.handle with
  | none => return t.suffix
  | some handle =>
    match (← get).handles.lookup handle with
    | some expansion => return expansion ++ t.suffix
    | none => throw .malformed

def anchor? : Reading (Option String) := do
  match ← look with
  | some (.anchor name) => do
    advance
    return some name
  | _ => return none

def tag? : Reading (Option WrittenTag) := do
  match ← look with
  | some (.tag t) => do
    advance
    return some t
  | _ => return none

/-- The anchor and the full tag in front of a node, in either order. -/
def properties : Reading (Option String × Option String) := do
  let (anchor, tag) ←
    match ← anchor? with
    | some name => do pure (some name, ← tag?)
    | none => do
      match ← tag? with
      | some t => do pure (← anchor?, some t)
      | none => pure (none, none)
  match tag with
  | some t => return (anchor, some (← fullTag t))
  | none => return (anchor, none)

/-- The kind of a collection with a given tag. -/
def collectionTag (standard : Tag) : Option String → Tag
  | none => standard
  | some "!" => standard
  | some name => .ofName name

/-- The kind of a scalar with a given tag and text. -/
def scalarTag (isPlain : Bool) (text : String) : Option String → Tag
  | none => if isPlain then .ofText text else .text
  | some "!" => .ofText text
  | some name => .ofName name

/-! ### Nodes -/

def aliased (name : String) : Reading Nat := do
  match (← get).anchors.lookup name with
  | some id => return id
  | none => throw .malformed

/-- Adds a node, under the name of its anchor, and gives its number. -/
def addNode (anchor : Option String) (n : Node) : Reading Nat := do
  let id := (← get).graph.size
  modify fun r =>
    { r with
      graph := r.graph.add n
      anchors := match anchor with
        | some name => (name, id) :: r.anchors
        | none => r.anchors }
  return id

def missing : Reading Nat := addNode none .empty

def emptyScalar (anchor tag : Option String) : Reading Nat := do
  require (anchor.isSome || tag.isSome)
  addNode anchor ⟨scalarTag true "" tag, .scalar ""⟩

/-- A collection with given parts. Its node is there before them, for the aliases among them. -/
def collection (anchor : Option String) (tag : Tag) (parts : Reading Shape) : Reading Nat := do
  let depth := (← get).depth
  if nestingLimit ≤ depth then throw .tooDeep
  let id ← addNode anchor ⟨tag, .sequence []⟩
  modify fun r => { r with depth := depth + 1 }
  let shape ← parts
  modify fun r => { r with depth, graph := r.graph.set id ⟨tag, shape⟩ }
  return id

/-- Whether a flow collection ends here, be it after a comma; between two parts a comma must
stand. -/
def flowEnds (stop : Token) (isFirst : Bool) : Reading Bool := do
  if ← sees [stop] then
    advance
    return true
  else
    unless isFirst do
      require (← sees [.flowEntry])
      advance
    if ← sees [stop] then
      advance
      return true
    else return false

mutual

def node (inBlock indentless : Bool) : Nat → Reading Nat
  | 0 => throw .malformed
  | fuel + 1 => do
    match ← look with
    | some (.alias name) =>
      advance
      aliased name
    | _ =>
      let (anchor, tag) ← properties
      let next ← look
      let named := (← get).anchors
      require !anchor.any fun name => (named.lookup name).isSome
      let sequence (items : Reading (List Nat)) :=
        collection anchor (collectionTag .sequence tag) (Shape.sequence <$> items)
      let mapping (entries : Reading (List (Nat × Nat))) :=
        collection anchor (collectionTag .mapping tag) (Shape.mapping <$> entries)
      match next with
      | some (.scalar isPlain text) =>
        advance
        addNode anchor ⟨scalarTag isPlain text tag, .scalar text⟩
      | some .flowSequenceStart => sequence do advance; flowItems fuel []
      | some .flowMappingStart => mapping do advance; flowEntries fuel []
      | some .blockEntry =>
        if indentless then sequence (indentlessItems fuel []) else emptyScalar anchor tag
      | some .blockSequenceStart =>
        if inBlock then sequence (do advance; blockItems fuel []) else emptyScalar anchor tag
      | some .blockMappingStart =>
        if inBlock then mapping (do advance; blockEntries fuel []) else emptyScalar anchor tag
      | _ => emptyScalar anchor tag

/-- A node, unless one of the given tokens stands in its place. -/
def nodeUnless (stops : List Token) (inBlock indentless : Bool) : Nat → Reading Nat
  | 0 => throw .malformed
  | fuel + 1 => do if ← sees stops then missing else node inBlock indentless fuel

/-- The items of a block sequence, after the reversed items `acc`. -/
def blockItems : Nat → List Nat → Reading (List Nat)
  | 0, _ => throw .malformed
  | fuel + 1, acc => do
    if ← sees [.blockEntry] then
      advance
      let item ← nodeUnless [.blockEntry, .blockEnd] true false fuel
      blockItems fuel (item :: acc)
    else
      require (← sees [.blockEnd])
      advance
      return acc.reverse

/-- The items of a block sequence at the column of its mapping, after the reversed items `acc`. -/
def indentlessItems : Nat → List Nat → Reading (List Nat)
  | 0, _ => throw .malformed
  | fuel + 1, acc => do
    if ← sees [.blockEntry] then
      advance
      let item ← nodeUnless [.blockEntry, .key, .value, .blockEnd] true false fuel
      indentlessItems fuel (item :: acc)
    else return acc.reverse

/-- A key if its token stands here, and a value if its token follows. -/
def pair (keyStops valueStops : List Token) (inBlock : Bool) : Nat → Reading (Nat × Nat)
  | 0 => throw .malformed
  | fuel + 1 => do
    let part (start : Token) (stops : List Token) : Reading Nat := do
      if ← sees [start] then
        advance
        nodeUnless stops inBlock inBlock fuel
      else missing
    let key ← part .key keyStops
    let value ← part .value valueStops
    return (key, value)

def blockEntries : Nat → List (Nat × Nat) → Reading (List (Nat × Nat))
  | 0, _ => throw .malformed
  | fuel + 1, acc => do
    if ← sees [.key] then
      let stops := [.key, .value, .blockEnd]
      let entry ← pair stops stops true fuel
      blockEntries fuel (entry :: acc)
    else
      require (← sees [.blockEnd])
      advance
      return acc.reverse

/-- The items of a flow sequence, after the reversed items `acc`; a pair among them is a mapping of
one entry. -/
def flowItems : Nat → List Nat → Reading (List Nat)
  | 0, _ => throw .malformed
  | fuel + 1, acc => do
    if ← flowEnds .flowSequenceEnd acc.isEmpty then return acc.reverse
    else if ← sees [.key] then
      let stops := [.flowEntry, .flowSequenceEnd]
      let item ← collection none .mapping do
        return .mapping [← pair (.value :: stops) stops false fuel]
      flowItems fuel (item :: acc)
    else
      let item ← node false false fuel
      flowItems fuel (item :: acc)

/-- The entries of a flow mapping, after the reversed entries `acc`; a key may stand alone. -/
def flowEntries : Nat → List (Nat × Nat) → Reading (List (Nat × Nat))
  | 0, _ => throw .malformed
  | fuel + 1, acc => do
    if ← flowEnds .flowMappingEnd acc.isEmpty then return acc.reverse
    else if ← sees [.key] then
      let stops := [.flowEntry, .flowMappingEnd]
      let entry ← pair (.value :: stops) stops false fuel
      flowEntries fuel (entry :: acc)
    else
      let key ← node false false fuel
      let entry := (key, ← missing)
      flowEntries fuel (entry :: acc)

end

/-! ### Documents -/

/-- The directives in front of a document: a version, which must be 1, at most once, and each tag
handle at most once. Gives the handles. -/
def directives : Nat → Bool → List (String × String) → Reading (List (String × String))
  | 0, _, _ => throw .malformed
  | fuel + 1, versioned, handles => do
    match ← look with
    | some (.directive (.version major)) =>
      require (!versioned && major == 1)
      advance
      directives fuel true handles
    | some (.directive (.tagHandle handle expansion)) =>
      require (handles.lookup handle).isNone
      advance
      directives fuel versioned ((handle, expansion) :: handles)
    | some (.directive .other) =>
      advance
      directives fuel versioned handles
    | _ => return handles

def document (fuel : Nat) : Reading Nat := do
  match ← look with
  | some (.directive _)
  | some .documentStart =>
    let handles ← directives fuel false []
    require (← sees [.documentStart])
    advance
    modify fun r => { r with handles := handles ++ standardHandles }
    match ← look with
    | none | some (.directive _) | some .documentStart | some .documentEnd => missing
    | _ => node true false fuel
  | _ => node true false fuel

def noMore : Nat → Reading Unit
  | 0 => throw .malformed
  | fuel + 1 => do
    match ← look with
    | none => return
    | some .documentEnd =>
      advance
      noMore fuel
    | _ =>
      discard (directives fuel false [])
      throw .malformed

/-- The root of a text that holds one document, or none if the text holds no document. -/
def onlyDocument (fuel : Nat) : Reading (Option Nat) := do
  match ← look with
  | none => return none
  | some _ =>
    let root ← document fuel
    noMore fuel
    return some root

end Reading

/-- The nodes of a text that holds one document with the number of its root, or none if the text
holds no document. -/
def Graph.ofTokens (input : TokenStream) : Except Fault (Option (Graph × Nat)) := do
  let fuel := 4 * input.tokens.length + 4
  let (root, r) ← (Reading.onlyDocument fuel).run ⟨input, Reading.standardHandles, [], .empty, 0⟩
  return root.map (r.graph, ·)

end Montage.Yaml
