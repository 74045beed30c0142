import Montage.Yaml.Input

/-!
# A text being read

A `Source` is what is left of a text, with the place that has been reached. Layout rules compare
columns, and the rule for short keys compares lines and offsets; a byte order mark takes no column.
-/

namespace Montage.Yaml

/-- The characters that end a line: line feed, next line, and the two Unicode separators. -/
def isBreak (c : Char) : Bool :=
  c == '\n' || c == '\u0085' || c == '\u2028' || c == '\u2029'

def isSpaceOrTab (c : Char) : Bool := c == ' ' || c == '\t'

/-- Whether a line ends before the given character, `none` being the end of the text. -/
def endsLine (c : Option Char) : Bool := c.all isBreak

/-- Whether a word ends before the given character: at a space, a tab or the end of a line. -/
def endsWord (c : Option Char) : Bool := c.all fun c => isSpaceOrTab c || isBreak c

/-- Whether a space or the end of a line follows. -/
def endsField (c : Option Char) : Bool := c.all fun c => c == ' ' || isBreak c

/-- Letters, digits, hyphen and underscore: the characters of anchors and of tag handles. -/
def isNameChar (c : Char) : Bool := c.isAlphanum || c == '-' || c == '_'

/-- The rest of a text and the place where it begins. -/
structure Source where
  rest : List Char
  /-- What happens when more than this rest is asked for; none if the text ends with it. -/
  beyond : Option Fault
  index : Nat
  line : Nat
  column : Nat

namespace Source

def ofInput (input : Input) : Source := ⟨input.chars, input.beyond, 0, 0, 0⟩

/-- Fails where the text goes on but cannot be read. -/
def reachable (s : Source) : Except Fault Unit :=
  match s.rest, s.beyond with
  | [], some f => .error f
  | _, _ => .ok ()

def require (s : Source) (b : Bool) : Except Fault Unit :=
  if b then .ok ()
  else do
    s.reachable
    .error .malformed

def peek? (s : Source) : Option Char := s.rest.head?

def peekSecond? (s : Source) : Option Char := s.rest.tail.head?

def advance (s : Source) : Source :=
  match s.rest with
  | [] => s
  | c :: rest =>
    if isBreak c then
      { s with rest, index := s.index + 1, line := s.line + 1, column := 0 }
    else
      let column := if c == '\uFEFF' then s.column else s.column + 1
      { s with rest, index := s.index + 1, column }

def drop : Nat → Source → Source
  | 0, s => s
  | n + 1, s => drop n s.advance

/-- Splits off the longest run of characters that pass a test of a character and its successor,
in front of the reversed text `acc`. -/
def spanLoop (p : Char → Option Char → Bool) :
    List Char → Source → List Char → List Char × Source
  | [], s, acc => (acc.reverse, s)
  | c :: rest, s, acc =>
    if p c rest.head? then spanLoop p rest s.advance (c :: acc) else (acc.reverse, s)

/-- The longest run of characters that pass a test, given each with its successor, and what
follows it. -/
def spanPairs (p : Char → Option Char → Bool) (s : Source) : List Char × Source :=
  spanLoop p s.rest s []

def span (p : Char → Bool) (s : Source) : List Char × Source := s.spanPairs fun c _ => p c

def dropWhile (p : Char → Bool) (s : Source) : Source := (s.span p).2

def dropSpaces : Nat → Source → Source
  | 0, s => s
  | n + 1, s => if s.peek? == some ' ' then dropSpaces n s.advance else s

/-- A line break at this place, as the value of a scalar keeps it: the two Unicode separators as
themselves, any other as a line feed. -/
def lineBreak? (s : Source) : Option (Char × Source) :=
  match s.peek? with
  | some c =>
    if c == '\u2028' || c == '\u2029' then some (c, s.advance)
    else if isBreak c then some ('\n', s.advance)
    else none
  | none => none

/-- Whether one of the markers `---` and `...` stands here, as a word. -/
def atMarker (s : Source) : Bool :=
  match s.rest with
  | '-' :: '-' :: '-' :: r => endsWord r.head?
  | '.' :: '.' :: '.' :: r => endsWord r.head?
  | _ => false

/-- The source after the spaces and the comment that may end a line. -/
def dropComment (s : Source) : Source :=
  let s := s.dropWhile (· == ' ')
  if s.peek? == some '#' then s.dropWhile (!isBreak ·) else s

end Source

end Montage.Yaml
