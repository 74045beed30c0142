import Montage.Number.Numeral
import Montage.Yaml.Token

/-!
# Names, tags and directives

The tokens that stay on one line: anchors and aliases, tags with their percent escapes, and the
directives `%YAML` and `%TAG`.
-/

namespace Montage.Yaml

namespace Source

/-- The name after `&` or `*`, which a blank, the end of the line or one of `?:,]}%@` and the
backquote must follow. -/
def anchorName (s : Source) : Except Fault (String × Source) := do
  let (name, s) := s.advance.span isNameChar
  s.require !name.isEmpty
  s.require (endsWord s.peek? || s.peek?.any fun c => c ∈ ['?', ':', ',', ']', '}', '%', '@', '\x60'])
  return (.ofList name, s)

/-- The number that exactly `n` hexadecimal digits write, after the digits of `acc`. -/
def hexNumber : Nat → Nat → Source → Except Fault (Nat × Source)
  | 0, acc, s => .ok (acc, s)
  | n + 1, acc, s =>
    match s.peek?.bind (digitIn? 16) with
    | some d => hexNumber n (acc * 16 + d) s.advance
    | none => do
      s.reachable
      .error .malformed

/-- The bytes of a run of percent escapes. -/
def percentBytes : Nat → Source → ByteArray → Except Fault (ByteArray × Source)
  | 0, s, acc => .ok (acc, s)
  | fuel + 1, s, acc =>
    if s.peek? == some '%' then do
      let (byte, s) ← hexNumber 2 0 s.advance
      percentBytes fuel s (acc.push byte.toUInt8)
    else .ok (acc, s)

/-- The characters of a tag that need no escape. -/
def isTagChar (c : Char) : Bool :=
  c.isAlphanum || c ∈ "-;/?:@&=+$,_.!~*'()[]".toList

/-- The characters of a tag, after the reversed text `acc`; runs of escapes are read as UTF-8. -/
def tagChars : Nat → Source → List Char → Except Fault (List Char × Source)
  | 0, s, acc => .ok (acc.reverse, s)
  | fuel + 1, s, acc =>
    match s.peek? with
    | some '%' => do
      let (bytes, s) ← percentBytes fuel s .empty
      match String.fromUTF8? bytes with
      | some text => tagChars fuel s (text.toList.reverse ++ acc)
      | none => .error .malformed
    | some c => if isTagChar c then tagChars fuel s.advance (c :: acc) else .ok (acc.reverse, s)
    | none => .ok (acc.reverse, s)

/-- The suffix of a tag or the expansion of a handle, which is not empty. -/
def tagText (fuel : Nat) (s : Source) : Except Fault (String × Source) := do
  let (text, after) ← tagChars fuel s []
  after.require (s.index != after.index)
  return (.ofList text, after)

def tagHandle (s : Source) : Except Fault (String × Source) := do
  s.require (s.peek? == some '!')
  if s.peekSecond? == some ' ' then
    return ("!", s.advance)
  else
    let (name, after) := s.advance.span isNameChar
    after.require (after.peek? == some '!')
    return (.ofList ('!' :: name ++ ['!']), after.advance)

def writtenTag (fuel : Nat) (s : Source) : Except Fault (WrittenTag × Source) := do
  let (tag, s) ←
    if s.peekSecond? == some '<' then do
      let (suffix, s) ← tagText fuel (s.drop 2)
      s.require (s.peek? == some '>')
      pure (⟨none, suffix⟩, s.advance)
    else if endsWord s.peekSecond? then
      pure (⟨none, "!"⟩, s.advance)
    else do
      let (beforeMark, _) := s.advance.span fun c => !(endsField (some c) || c == '!')
      let marked := (s.advance.drop beforeMark.length).peek? == some '!'
      let (handle, s) ← if marked then s.tagHandle else pure ("!", s.advance)
      let (suffix, s) ← tagText fuel s
      pure (⟨some handle, suffix⟩, s)
  s.require (endsField s.peek?)
  return (tag, s)

/-- A run of decimal digits as a number; a run longer than 4300 digits is not converted. -/
def versionNumber (s : Source) : Except Fault (Nat × Source) := do
  let (digits, s) := s.span Char.isDigit
  s.require !digits.isEmpty
  if digits.length > 4300 then .error (.number .tooManyDigits)
  else return (Nat.ofDigitChars 10 digits 0, s)

/-- A directive, from its percent sign to the end of its line. -/
def readDirective (fuel : Nat) (s : Source) : Except Fault (Directive × Source) := do
  let (name, s) := s.advance.span isNameChar
  s.require !name.isEmpty
  s.require (endsField s.peek?)
  let (directive, s) ←
    if name = "YAML".toList then do
      let (major, s) ← (s.dropWhile (· == ' ')).versionNumber
      s.require (s.peek? == some '.')
      let (_, s) ← s.advance.versionNumber
      s.require (endsField s.peek?)
      pure (Directive.version major, s)
    else if name = "TAG".toList then do
      let (handle, s) ← (s.dropWhile (· == ' ')).tagHandle
      s.require (s.peek? == some ' ')
      let (expansion, s) ← tagText fuel (s.dropWhile (· == ' '))
      s.require (endsField s.peek?)
      pure (Directive.tagHandle handle expansion, s)
    else
      pure (Directive.other, s.dropWhile (!isBreak ·))
  let s := s.dropComment
  s.require (endsLine s.peek?)
  return (directive, (s.lineBreak?.map (·.2)).getD s)

end Source

end Montage.Yaml
