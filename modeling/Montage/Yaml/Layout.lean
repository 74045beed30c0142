import Montage.Yaml.ScalarText

/-!
# Layout

Reading a text as tokens. Block collections are opened and closed by columns, and a mapping key is
recognised by the colon after it: where a token could start a key, its place is kept as a
`Candidate`, and the colon puts the key token in front of it. Tokens that a later colon may still
change are not handed on, so a fault hides them as well as those after them.
-/

namespace Montage.Yaml

/-- How deep collections may be nested. -/
def nestingLimit : Nat := 487

/-- A place where a mapping key may have started. -/
structure Candidate where
  /-- How many tokens were read before it. -/
  tokenCount : Nat
  /-- Whether nothing but a key can stand here. -/
  required : Bool
  index : Nat
  line : Nat
  column : Nat

/-- A text that is being read as tokens. -/
structure Layout where
  source : Source
  /-- The tokens so far, the last one first. -/
  tokens : List Token
  /-- How many tokens there are so far. -/
  count : Nat
  /-- The columns of the open block collections, innermost first. -/
  indents : List Nat
  /-- Whether a key may start at this place. -/
  keyAllowed : Bool
  /-- The candidate outside of all flow collections. -/
  outer : Option Candidate
  /-- The candidates inside the open flow collections, innermost first. -/
  inner : List (Option Candidate)

namespace Layout

/-- The beginning of a text; a byte order mark is skipped. -/
def start (input : Input) : Layout :=
  let s := Source.ofInput input
  ⟨if s.peek? == some '\uFEFF' then s.advance else s, [], 0, [], true, none, []⟩

def inFlow (st : Layout) : Bool := !st.inner.isEmpty

/-- The least column of the lines of a scalar at this place. -/
def leastColumn (st : Layout) : Nat :=
  match st.indents with
  | [] => 0
  | c :: _ => c + 1

def push (st : Layout) (t : Token) : Layout :=
  { st with tokens := t :: st.tokens, count := st.count + 1 }

/-- Puts a token behind the first `place` tokens. -/
def insertAt (st : Layout) (place : Nat) (t : Token) : Layout :=
  let later := st.count - place
  { st with tokens := st.tokens.take later ++ t :: st.tokens.drop later, count := st.count + 1 }

def goTo (st : Layout) (s : Source) : Layout := { st with source := s }

def allowKey (st : Layout) (b : Bool) : Layout := { st with keyAllowed := b }

/-! ### Candidates -/

def candidate (st : Layout) : Option Candidate :=
  match st.inner with
  | [] => st.outer
  | c :: _ => c

def setCandidate (st : Layout) (c : Option Candidate) : Layout :=
  match st.inner with
  | [] => { st with outer := c }
  | _ :: rest => { st with inner := c :: rest }

/-- Gives up the candidate of the innermost open collection; one that must be a key cannot be given
up. -/
def dropCandidate (st : Layout) : Except Fault Layout := do
  st.source.require !st.candidate.any (·.required)
  return st.setCandidate none

/-- Makes this place the candidate of the innermost open collection, if a key may start here. -/
def markCandidate (st : Layout) : Except Fault Layout :=
  if st.keyAllowed then do
    let s := st.source
    let required := !st.inFlow && st.indents.head? == some s.column
    let st ← st.dropCandidate
    return st.setCandidate (some ⟨st.count, required, s.index, s.line, s.column⟩)
  else .ok st

/-- A key and its colon stand on one line and within 1024 characters. -/
def isStale (s : Source) (c : Candidate) : Bool := c.line != s.line || s.index - c.index > 1024

/-- Gives up a candidate that is too far back. -/
def refresh (s : Source) (c : Option Candidate) : Except Fault (Option Candidate) :=
  if c.any (isStale s) then do
    s.require !c.any (·.required)
    return none
  else .ok c

/-- Gives up all candidates that are too far back. -/
def dropStale (st : Layout) : Except Fault Layout := do
  let outer ← refresh st.source st.outer
  let inner ← st.inner.mapM (refresh st.source)
  return { st with outer, inner }

/-- How many tokens stay as they are: those before all candidates that can still become keys. -/
def settled (st : Layout) : Nat :=
  let live := ((st.outer :: st.inner).filterMap id).filter fun c =>
    c.required || !isStale st.source c
  (live.map (·.tokenCount)).foldl min st.count

/-! ### Columns -/

/-- Closes the innermost block collections while the test of their column holds; in a flow
collection columns do not count. -/
def closeWhile (p : Nat → Bool) (st : Layout) : Layout :=
  if st.inFlow then st
  else
    let closed := (st.indents.takeWhile p).length
    { st with
      indents := st.indents.drop closed
      tokens := List.replicate closed .blockEnd ++ st.tokens
      count := st.count + closed }

/-- Closes the block collections that stand to the right of a column. -/
def closeTo (st : Layout) (column : Nat) : Layout := st.closeWhile (column < ·)

def closeAll (st : Layout) : Layout := st.closeWhile fun _ => true

/-- Opens a block collection at a column, with its token at a given place of the token list, if
the column lies to the right of those of the open ones. -/
def openAt (st : Layout) (column place : Nat) (t : Token) : Layout :=
  if st.indents.head?.all (· < column) then
    { st with indents := column :: st.indents }.insertAt place t
  else st

/-! ### Reading one token -/

/-- Skips spaces, comments and line breaks; after a break a key may start, but in a flow
collection. -/
def skipBlanks : Nat → Layout → Layout
  | 0, st => st
  | fuel + 1, st =>
    let s := st.source.dropComment
    match s.lineBreak? with
    | some (_, s) => skipBlanks fuel { st with source := s, keyAllowed := st.keyAllowed || !st.inFlow }
    | none => st.goTo s

def readDirective (fuel : Nat) (st : Layout) : Except Fault Layout := do
  let st ← st.closeAll.dropCandidate
  let (d, s) ← st.source.readDirective fuel
  return ((st.allowKey false).goTo s).push (.directive d)

def readMarker (t : Token) (st : Layout) : Except Fault Layout := do
  let st ← st.closeAll.dropCandidate
  return ((st.allowKey false).goTo (st.source.drop 3)).push t

def openFlow (t : Token) (st : Layout) : Except Fault Layout := do
  if nestingLimit ≤ st.inner.length then .error .tooDeep
  let st ← st.markCandidate
  return ({ st with inner := none :: st.inner, keyAllowed := true }.goTo st.source.advance).push t

def closeFlow (t : Token) (st : Layout) : Except Fault Layout := do
  st.source.require st.inFlow
  let st ← st.dropCandidate
  return ({ st with inner := st.inner.tail, keyAllowed := false }.goTo st.source.advance).push t

def readFlowEntry (st : Layout) : Except Fault Layout := do
  let st ← st.dropCandidate
  return ((st.allowKey true).goTo st.source.advance).push .flowEntry

def readBlockEntry (st : Layout) : Except Fault Layout := do
  st.source.require (st.inFlow || st.keyAllowed)
  let st := if st.inFlow then st
    else st.openAt st.source.column st.count .blockSequenceStart
  let st ← (st.allowKey true).dropCandidate
  return (st.goTo st.source.advance).push .blockEntry

def readKey (st : Layout) : Except Fault Layout := do
  st.source.require (st.inFlow || st.keyAllowed)
  let st := if st.inFlow then st
    else st.openAt st.source.column st.count .blockMappingStart
  let st ← (st.allowKey !st.inFlow).dropCandidate
  return (st.goTo st.source.advance).push .key

/-- The colon of a value. It makes the candidate a key, which may open a block mapping. -/
def readValue (st : Layout) : Except Fault Layout := do
  let st ←
    match st.candidate with
    | some c =>
      let st := st.setCandidate none
      let st := st.insertAt c.tokenCount .key
      let st := if st.inFlow then st else st.openAt c.column c.tokenCount .blockMappingStart
      pure (st.allowKey false)
    | none => do
      st.source.require (st.inFlow || st.keyAllowed)
      let st := if st.inFlow then st
        else st.openAt st.source.column st.count .blockMappingStart
      (st.allowKey !st.inFlow).dropCandidate
  return (st.goTo st.source.advance).push .value

/-- A token that may start a key and after which none starts. -/
def readInline (read : Source → Except Fault (Token × Source)) (st : Layout) :
    Except Fault Layout := do
  let st ← st.markCandidate
  let (t, s) ← read st.source
  return ((st.allowKey false).goTo s).push t

/-- A block scalar, after which a key may start. -/
def readBlock (folded : Bool) (fuel : Nat) (st : Layout) : Except Fault Layout := do
  let st ← (st.allowKey true).dropCandidate
  let (text, s) ← st.source.block folded (max 1 st.leastColumn) fuel
  return (st.goTo s).push (.scalar false (.ofList text))

/-- A plain scalar; a key may start after it if it ended a line. -/
def readPlain (fuel : Nat) (st : Layout) : Except Fault Layout := do
  let st ← st.markCandidate
  let (text, s, ended) := st.source.plain st.inFlow st.leastColumn fuel
  return ((st.allowKey ended).goTo s).push (.scalar true (.ofList text))

/-- The characters that start no plain scalar. -/
def indicators : List Char :=
  ['-', '?', ':', ',', '[', ']', '{', '}', '#', '&', '*', '!', '|', '>', '\'', '"', '%', '@', '\x60']

/-- Whether a plain scalar starts with a character, given its successor. -/
def startsPlain (inFlow : Bool) (c : Char) (next : Option Char) : Bool :=
  !(isSpaceOrTab c || isBreak c || c ∈ indicators)
    || (!endsWord next && (c == '-' || (!inFlow && (c == '?' || c == ':'))))

/-- Reads the next token and tells whether there was one; the end of the text closes all block
collections. -/
def readToken (fuel : Nat) (st : Layout) : Except Fault (Bool × Layout) := do
  let st := st.skipBlanks fuel
  let st ← st.dropStale
  let st := st.closeTo st.source.column
  let s := st.source
  match s.peek? with
  | none =>
    s.reachable
    let st ← st.closeAll.dropCandidate
    return (false, st)
  | some c =>
    let lone := endsWord s.peekSecond?
    let next ←
      if s.column == 0 && c == '%' then st.readDirective fuel
      else if s.column == 0 && s.atMarker then
        st.readMarker (if c == '-' then .documentStart else .documentEnd)
      else if c == '[' then st.openFlow .flowSequenceStart
      else if c == '{' then st.openFlow .flowMappingStart
      else if c == ']' then st.closeFlow .flowSequenceEnd
      else if c == '}' then st.closeFlow .flowMappingEnd
      else if c == ',' then st.readFlowEntry
      else if c == '-' && lone then st.readBlockEntry
      else if c == '?' && (st.inFlow || lone) then st.readKey
      else if c == ':' && (st.inFlow || lone) then st.readValue
      else if c == '*' then
        st.readInline fun s => s.anchorName.map fun (name, s) => (.alias name, s)
      else if c == '&' then
        st.readInline fun s => s.anchorName.map fun (name, s) => (.anchor name, s)
      else if c == '!' then
        st.readInline fun s => (s.writtenTag fuel).map fun (tag, s) => (.tag tag, s)
      else if c == '|' && !st.inFlow then st.readBlock false fuel
      else if c == '>' && !st.inFlow then st.readBlock true fuel
      else if c == '\'' || c == '"' then
        st.readInline fun s => (s.quoted (c == '"') fuel).map fun (text, s) =>
          (.scalar false (.ofList text), s)
      else if startsPlain st.inFlow c s.peekSecond? then st.readPlain fuel
      else .error .malformed
    next.source.reachable
    return (true, next)

/-- Reads tokens until the text ends or a fault stops this. -/
def readAll : Nat → Layout → TokenStream
  | 0, st => ⟨st.tokens.reverse, none⟩
  | fuel + 1, st =>
    match st.readToken fuel with
    | .error f => ⟨(st.tokens.drop (st.count - st.settled)).reverse, some f⟩
    | .ok (true, next) => readAll fuel next
    | .ok (false, last) => ⟨last.tokens.reverse, none⟩

end Layout

/-- The tokens of a text. Each step reads a character at least, so the length of the text bounds
the number of steps. -/
def TokenStream.ofInput (input : Input) : TokenStream :=
  (Layout.start input).readAll (input.chars.length + 2)

end Montage.Yaml
