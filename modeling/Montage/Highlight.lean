import Montage.Text.Blank
import Montage.Text.Digit
import Montage.Text.Word

/-!
# Highlighting commands

Which parts of a shown command are coloured. Each rule finds its leftmost matches that do not
overlap; the rules come one after the other, and where spans of several rules lie over each other
the last one wins.
-/

namespace Montage

/-- A colour of the terminal. -/
structure Colour where
  red : Nat
  green : Nat
  blue : Nat
  deriving DecidableEq, Repr

namespace Colour

def command : Colour := ⟨0xEC, 0xEF, 0xF4⟩

def flags : Colour := ⟨0x81, 0xA1, 0xC1⟩

def numbers : Colour := ⟨0xB4, 0x8E, 0xAD⟩

def paths : Colour := ⟨0xA3, 0xBE, 0x8C⟩

def strings : Colour := ⟨0xEB, 0xCB, 0x8B⟩

def filters : Colour := ⟨0x88, 0xC0, 0xD0⟩

def hexByte (n : Nat) : List Char :=
  [(Nat.digitChar (n / 16)).toUpper, (Nat.digitChar (n % 16)).toUpper]

def hex (c : Colour) : String :=
  .ofList ('#' :: hexByte c.red ++ hexByte c.green ++ hexByte c.blue)

end Colour

/-! ### Matches -/

/-- What finds matches: the length of the match that starts at a place, given the character before
the place and the text from it on. -/
abbrev Matcher := Option Char → List Char → Option Nat

namespace Matcher

/-- The length of the longest run of characters that pass a test. -/
def run (p : Char → Bool) (cs : List Char) : Nat := (cs.takeWhile p).length

def word (w : List Char) : Matcher := fun before cs =>
  if w.isPrefixOf cs && isWordBoundary before cs.head? then some w.length else none

/-- ASCII letters, digits and colons between square brackets. -/
def label : Matcher := fun _ cs =>
  match cs with
  | '[' :: rest =>
    let n := run (fun c => c.isAlphanum || c == ':') rest
    if n != 0 && (rest.drop n).head? == some ']' then some (n + 2) else none
  | _ => none

def orElse (a b : Matcher) : Matcher := fun before cs =>
  match a before cs with
  | some n => some n
  | none => b before cs

/-- The characters of a flag after its first letter. -/
def isFlagChar (c : Char) : Bool := c.isAlphanum || c == '_' || c == ':' || c == '-'

/-- A letter and the characters of a flag after it, behind hyphens of the given number. -/
def flagName (hyphens : Nat) (cs : List Char) : Option Nat :=
  match cs with
  | c :: rest => if c.isAlpha then some (hyphens + 1 + run isFlagChar rest) else none
  | [] => none

/-- One hyphen or two and a name that starts with a letter, at the start of the text or after a
blank. -/
def flag : Matcher := fun before cs =>
  if before.all isBlank then
    match cs with
    | '-' :: '-' :: rest => flagName 2 rest
    | '-' :: rest => flagName 1 rest
    | _ => none
  else none

/-- The length of the run of digits that stands at the start of a word, or zero. -/
def leadingDigits (before : Option Char) (cs : List Char) : Nat :=
  if isWordBoundary before cs.head? then run isDecimalDigit cs else 0

def decimal : Matcher := fun before cs =>
  let n := leadingDigits before cs
  if n = 0 then none
  else
    match cs.drop n with
    | '.' :: rest =>
      let k := run isDecimalDigit rest
      if k != 0 && isWordBoundary (rest.take k).getLast? (rest.drop k).head? then some (n + 1 + k)
      else none
    | _ => none

/-- Whether a point and a digit come next. -/
def startsFraction (cs : List Char) : Bool :=
  match cs with
  | '.' :: c :: _ => isDecimalDigit c
  | _ => false

/-- Whether a number may end between a character and the text after it. -/
def endsAmount (last : Option Char) (after : List Char) : Bool :=
  isWordBoundary last after.head? && !startsFraction after

/-- Digits and perhaps an `M`, between word boundaries and not in front of a fraction. -/
def amount : Matcher := fun before cs =>
  let n := leadingDigits before cs
  if n = 0 then none
  else
    match cs.drop n with
    | 'M' :: after => if endsAmount (some 'M') after then some (n + 1) else none
    | after => if endsAmount (cs.take n).getLast? after then some n else none

/-- A text between two quotes of one kind. -/
def quoted : Matcher := fun _ cs =>
  match cs with
  | c :: rest =>
    if c == '\'' || c == '"' then
      let n := run (· != c) rest
      if (rest.drop n).isEmpty then none else some (n + 2)
    else none
  | [] => none

def isPathChar (c : Char) : Bool := !(isBlank c || c == '\'' || c == '"' || c == '\x60')

/-- The number of characters with which a path starts: `/`, `~`, `./` or `../`. -/
def pathStart (cs : List Char) : Nat :=
  match cs with
  | '/' :: _ => 1
  | '~' :: _ => 1
  | '.' :: '/' :: _ => 2
  | '.' :: '.' :: '/' :: _ => 3
  | _ => 0

def path : Matcher := fun _ cs =>
  let start := pathStart cs
  let n := run isPathChar (cs.drop start)
  if start != 0 && n != 0 then some (start + n) else none

end Matcher

/-- A coloured part of a text, from one offset up to another. -/
structure Span where
  start : Nat
  stop : Nat
  colour : Colour
  deriving DecidableEq, Repr

/-- The leftmost matches that do not overlap, as offsets. `skip` characters belong to the last match
and `i` is the offset of this place. -/
def matchesFrom (m : Matcher) : Option Char → List Char → Nat → Nat → List (Nat × Nat) →
    List (Nat × Nat)
  | _, [], _, _, acc => acc.reverse
  | before, c :: rest, i, skip, acc =>
    if skip = 0 then
      match m before (c :: rest) with
      | some n => matchesFrom m (some c) rest (i + 1) (n - 1) ((i, i + n) :: acc)
      | none => matchesFrom m (some c) rest (i + 1) 0 acc
    else matchesFrom m (some c) rest (i + 1) (skip - 1) acc

/-- The leftmost matches in a text that do not overlap. -/
def matchesIn (m : Matcher) (cs : List Char) : List (Nat × Nat) := matchesFrom m none cs 0 0 []

def highlightRules : List (Matcher × Colour) :=
  [(.orElse (.word "scale=".toList) (.orElse (.word "concat=".toList) .label), .filters),
   (.flag, .flags),
   (.decimal, .numbers),
   (.amount, .numbers),
   (.quoted, .strings),
   (.path, .paths)]

/-! ### Highlighted texts -/

/-- A text with coloured parts. Where it has a base style, all of it is bold and in the colour of a
command. -/
structure Highlighted where
  plain : List Char
  styled : Bool
  spans : List Span

/-- Whether a character can be shown in a line of the terminal: no bell, backspace, vertical tab,
form feed or carriage return. -/
def isShown (c : Char) : Bool := !(c ∈ ['\x07', '\x08', '\x0b', '\x0c', '\x0d'])

/-- The span cut to a text of a given length, unless it starts behind it. -/
def Span.clip (length : Nat) (s : Span) : Option Span :=
  if length ≤ s.start then none else some { s with stop := min length s.stop }

/-- The spans of all rules in a text, rule by rule. -/
def ruleSpans (cs : List Char) : List Span :=
  highlightRules.flatMap fun (m, colour) =>
    (matchesIn m cs).map fun (start, stop) => ⟨start, stop, colour⟩

/-- A command with its coloured parts. Their offsets count in the command, also where characters of
it are not shown. -/
def highlight (command : String) : Highlighted :=
  let cs := command.toList
  if cs.isEmpty then ⟨[], false, []⟩
  else
    let plain := cs.filter isShown
    ⟨plain, true, (ruleSpans cs).filterMap (Span.clip plain.length)⟩

end Montage
