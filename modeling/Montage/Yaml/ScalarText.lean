import Montage.Yaml.Word

/-!
# The text of scalars

The three ways to write a scalar: quoted, plain, and as a block under a `|` or `>` header. A single
line break inside a quoted or plain scalar reads as a space, and of several breaks the first is
dropped. The `fuel` of each loop is a bound on the characters that are left.
-/

namespace Montage.Yaml

/-- The text that stands for a line break and the breaks that follow it. -/
def foldBreaks (first : Char) (more : List Char) : List Char :=
  if first != '\n' then first :: more
  else if more.isEmpty then [' ']
  else more

namespace Source

/-! ### Quoted scalars -/

/-- The breaks of the blank lines at this place, after the reversed breaks `acc`. A document marker
must not stand at the start of a line. -/
def quotedBreaks : Nat → Source → List Char → Except Fault (List Char × Source)
  | 0, s, acc => .ok (acc.reverse, s)
  | fuel + 1, s, acc => do
    s.require !s.atMarker
    let s := s.dropWhile isSpaceOrTab
    match s.lineBreak? with
    | some (b, s) => quotedBreaks fuel s (b :: acc)
    | none => return (acc.reverse, s)

/-- The character that a one-letter escape of a double-quoted scalar stands for. -/
def escaped? (c : Char) : Option Char :=
  match c with
  | '0' => some '\x00'
  | 'a' => some '\x07'
  | 'b' => some '\x08'
  | 't' => some '\t'
  | '\t' => some '\t'
  | 'n' => some '\n'
  | 'v' => some '\x0b'
  | 'f' => some '\x0c'
  | 'r' => some '\r'
  | 'e' => some '\x1b'
  | ' ' => some ' '
  | '"' => some '"'
  | '\\' => some '\\'
  | '/' => some '/'
  | 'N' => some '\u0085'
  | '_' => some '\u00a0'
  | 'L' => some '\u2028'
  | 'P' => some '\u2029'
  | _ => none

/-- How many hexadecimal digits follow an escape letter. -/
def escapeLength? (c : Char) : Option Nat :=
  match c with
  | 'x' => some 2
  | 'u' => some 4
  | 'U' => some 8
  | _ => none

def charOfCode (n : Nat) : Except Fault Char :=
  if n > 0x7FFFFFFF then .error .beyondWord
  else if n > 0x10FFFF then .error .beyondUnicode
  else if 0xD800 ≤ n && n ≤ 0xDFFF then .error .surrogate
  else .ok (Char.ofNat n)

/-- What an escape stands for, from the character after the backslash on. -/
def readEscape (fuel : Nat) (s : Source) : Except Fault (List Char × Source) :=
  match s.peek? with
  | none => do
    s.reachable
    .error .malformed
  | some c =>
    match escaped? c, escapeLength? c with
    | some e, _ => .ok ([e], s.advance)
    | none, some n => do
      let (code, s) ← hexNumber n 0 s.advance
      return ([← charOfCode code], s)
    | none, none =>
      match s.lineBreak? with
      | some (_, s) => quotedBreaks fuel s []
      | none => .error .malformed

/-- A run of blanks inside quotes: kept as it is within a line, folded across lines. -/
def readQuotedBlanks (fuel : Nat) (s : Source) : Except Fault (List Char × Source) := do
  let (blanks, s) := s.span isSpaceOrTab
  s.require s.peek?.isSome
  match s.lineBreak? with
  | some (b, s) => do
    let (more, s) ← quotedBreaks fuel s []
    return (foldBreaks b more, s)
  | none => return (blanks, s)

/-- What is left of a quoted scalar and what follows its closing quote; `acc` is the text read
so far, reversed. -/
def quotedRest (double : Bool) : Nat → Source → List Char → Except Fault (List Char × Source)
  | 0, _, _ => .error .malformed
  | fuel + 1, s, acc =>
    match s.peek? with
    | none => do
      s.reachable
      .error .malformed
    | some c =>
      if c == (if double then '"' else '\'') then
        if !double && s.peekSecond? == some '\'' then quotedRest double fuel (s.drop 2) ('\'' :: acc)
        else .ok (acc.reverse, s.advance)
      else if double && c == '\\' then do
        let (text, s) ← readEscape fuel s.advance
        quotedRest double fuel s (text.reverse ++ acc)
      else if isSpaceOrTab c || isBreak c then do
        let (text, s) ← readQuotedBlanks fuel s
        quotedRest double fuel s (text.reverse ++ acc)
      else quotedRest double fuel s.advance (c :: acc)

def quoted (double : Bool) (fuel : Nat) (s : Source) : Except Fault (List Char × Source) :=
  quotedRest double fuel s.advance []

/-! ### Plain scalars -/

/-- Whether a plain scalar goes on with a character, given its successor. -/
def continuesPlain (inFlow : Bool) (c : Char) (next : Option Char) : Bool :=
  !(isSpaceOrTab c || isBreak c
    || (c == ':' && (endsWord next || (inFlow && next.any (· ∈ [',', '[', ']', '{', '}']))))
    || (inFlow && c ∈ [',', '?', '[', ']', '{', '}']))

/-- The breaks of the blank lines at this place, after the reversed breaks `acc`; `none` if a
document marker comes first. -/
def plainBreaks : Nat → Source → List Char → Option (List Char) × Source
  | 0, s, acc => (some acc.reverse, s)
  | fuel + 1, s, acc =>
    let s := s.dropWhile (· == ' ')
    match s.lineBreak? with
    | some (b, s) => if s.atMarker then (none, s) else plainBreaks fuel s (b :: acc)
    | none => (some acc.reverse, s)

/-- The blanks after a run of a plain scalar: their text, empty where the scalar ends, what follows,
and whether a line ended. -/
def plainGap (fuel : Nat) (s : Source) : List Char × Source × Bool :=
  let (blanks, s) := s.span (· == ' ')
  match s.lineBreak? with
  | none => (blanks, s, false)
  | some (b, s) =>
    if s.atMarker then ([], s, true)
    else
      match plainBreaks fuel s [] with
      | (some more, s) => (foldBreaks b more, s, true)
      | (none, s) => ([], s, true)

/-- The text of a plain scalar, what follows it, and whether its last gap ended a line. `indent` is
the least column of its further lines, `gap` the text of the gap before this place, and `acc` the
text read so far, reversed. -/
def plainRest (inFlow : Bool) (indent : Nat) :
    Nat → Source → List Char → List Char → Bool → List Char × Source × Bool
  | 0, s, _, acc, ended => (acc.reverse, s, ended)
  | fuel + 1, s, gap, acc, ended =>
    if s.peek? == some '#' then (acc.reverse, s, ended)
    else
      let (run, s) := s.spanPairs (continuesPlain inFlow)
      if run.isEmpty then (acc.reverse, s, ended)
      else
        let acc := run.reverse ++ (gap.reverse ++ acc)
        let (gap, s, ended) := plainGap fuel s
        if gap.isEmpty || s.peek? == some '#' || (!inFlow && s.column < indent) then
          (acc.reverse, s, ended)
        else plainRest inFlow indent fuel s gap acc ended

def plain (inFlow : Bool) (indent fuel : Nat) (s : Source) : List Char × Source × Bool :=
  plainRest inFlow indent fuel s [] [] false

/-! ### Block scalars -/

/-- What becomes of the breaks at the end of a block scalar. -/
inductive Chomping
  | strip
  | clip
  | keep
  deriving DecidableEq

/-- The mark of a header that strips or keeps the final breaks. -/
def chomping? (s : Source) : Option (Chomping × Source) :=
  match s.peek? with
  | some '+' => some (.keep, s.advance)
  | some '-' => some (.strip, s.advance)
  | _ => none

/-- The digit of a header that gives the indentation, which is not zero. -/
def indentMark? (s : Source) : Except Fault (Option Nat × Source) :=
  match s.peek? with
  | some c =>
    if c == '0' then .error .malformed
    else if c.isDigit then .ok (some (c.toNat - '0'.toNat), s.advance)
    else .ok (none, s)
  | none => .ok (none, s)

/-- The header of a block scalar, from its `|` or `>` to the end of its line. -/
def blockHeader (s : Source) : Except Fault ((Chomping × Option Nat) × Source) := do
  let s := s.advance
  let (header, s) ←
    match s.chomping? with
    | some (chomping, s) => do
      let (mark, s) ← s.indentMark?
      pure ((chomping, mark), s)
    | none => do
      let (mark, s) ← s.indentMark?
      match mark, s.chomping? with
      | some _, some (chomping, s) => pure ((chomping, mark), s)
      | _, _ => pure ((.clip, mark), s)
  s.require (endsField s.peek?)
  let s := s.dropComment
  s.require (endsLine s.peek?)
  return (header, (s.lineBreak?.map (·.2)).getD s)

/-- The breaks of the blank lines at this place, after the reversed breaks `acc`; each line gives up
its spaces before the column `indent`. -/
def blockBreaks (indent : Nat) : Nat → Source → List Char → List Char × Source
  | 0, s, acc => (acc.reverse, s)
  | fuel + 1, s, acc =>
    let s := s.dropSpaces (indent - s.column)
    match s.lineBreak? with
    | some (b, s) => blockBreaks indent fuel s (b :: acc)
    | none => (acc.reverse, s)

/-- The breaks of the blank lines at this place, after the reversed breaks `acc`, and the greatest
column that their spaces reach, which is at least `widest`. -/
def blockIndentation : Nat → Source → List Char → Nat → List Char × Nat × Source
  | 0, s, acc, widest => (acc.reverse, widest, s)
  | fuel + 1, s, acc, widest =>
    if s.peek? == some ' ' then
      let s := s.dropWhile (· == ' ')
      blockIndentation fuel s acc (max widest s.column)
    else
      match s.lineBreak? with
      | some (b, s) => blockIndentation fuel s (b :: acc) widest
      | none => (acc.reverse, widest, s)

/-- The lines of a block scalar. `breaks` are those before this place, `acc` is the text read so
far, reversed; the result is the text without its last breaks, the break that ended its last line,
the breaks of the blank lines after it, and what follows. -/
def blockLines (folded : Bool) (indent : Nat) :
    Nat → Source → List Char → List Char → List Char → (List Char × List Char × List Char) × Source
  | 0, s, last, breaks, acc => ((acc.reverse, last, breaks), s)
  | fuel + 1, s, last, breaks, acc =>
    if s.column == indent && s.peek?.isSome then
      let startsInk := !s.peek?.any isSpaceOrTab
      let (line, s) := s.span (!isBreak ·)
      let acc := line.reverse ++ (breaks.reverse ++ acc)
      let (last, s) :=
        match s.lineBreak? with
        | some (b, s) => ([b], s)
        | none => ([], s)
      let (breaks, s) := blockBreaks indent fuel s []
      if s.column == indent && s.peek?.isSome then
        let joined := folded && last == ['\n'] && startsInk && !s.peek?.any isSpaceOrTab
        let acc :=
          if joined then if breaks.isEmpty then ' ' :: acc else acc
          else last.reverse ++ acc
        blockLines folded indent fuel s last breaks acc
      else ((acc.reverse, last, breaks), s)
    else ((acc.reverse, last, breaks), s)

/-- The text of a block scalar, from its header on; `least` is the least column it may stand at. -/
def block (folded : Bool) (least fuel : Nat) (s : Source) : Except Fault (List Char × Source) := do
  let ((chomping, mark), s) ← s.blockHeader
  let (breaks, indent, s) :=
    match mark with
    | none =>
      let (breaks, widest, s) := blockIndentation fuel s [] 0
      (breaks, max least widest, s)
    | some n =>
      let indent := least + n - 1
      let (breaks, s) := blockBreaks indent fuel s []
      (breaks, indent, s)
  let ((text, last, breaks), s) := blockLines folded indent fuel s [] breaks []
  return (text ++ (if chomping = .strip then [] else last) ++
    (if chomping = .keep then breaks else []), s)

end Source

end Montage.Yaml
