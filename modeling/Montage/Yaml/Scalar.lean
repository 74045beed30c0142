import Montage.Number.Numeral
import Montage.Yaml.Data
import Montage.Yaml.Tag

/-!
# Scalars

The values of scalar nodes: what a text stands for once its kind is known.
-/

namespace Montage.Yaml

def orNumberFault {α : Type} (r : Except NumberFault α) : Except Fault α := r.mapError .number

/-! ### Integers -/

/-- The integer that parts write in base 60, the greatest first. -/
def sixtiesInt (parts : List (List Char)) : Except NumberFault Int :=
  parts.foldlM (fun acc part => (readInt 10 part).map (acc * 60 + ·)) 0

/-- The integer that a text after its sign writes: `0b` and `0x` mark the bases 2 and 16, a leading
zero the base 8, and colons the base 60. -/
def unsignedInt (cs : List Char) : Except Fault Int :=
  match cs with
  | [] => .error .emptyNumber
  | ['0'] => .ok 0
  | '0' :: 'b' :: digits => orNumberFault (readInt 2 digits)
  | '0' :: 'x' :: digits => orNumberFault (readInt 16 digits)
  | '0' :: digits => orNumberFault (readInt 8 ('0' :: digits))
  | cs => orNumberFault (if ':' ∈ cs then sixtiesInt (cs.splitOn ':') else readInt 10 cs)

def ungrouped (cs : List Char) : List Char := cs.filter (· != '_')

def intOf (cs : List Char) : Except Fault Int := do
  let (negative, body) := splitSign (ungrouped cs)
  let n ← unsignedInt body
  return if negative then -n else n

/-! ### Numbers with a point -/

/-- The sum of parts with the weights 1, 60, 3600 and so on, each step rounded; the parts come with
the least first. -/
def weightedSum : List Binary64 → Nat → Binary64 → Except NumberFault Binary64
  | [], _, sum => .ok sum
  | part :: parts, weight, sum =>
    match Binary64.ofInt? weight with
    | some w => weightedSum parts (weight * 60) (sum.add (part.mul w))
    | none => .error .tooLarge

/-- The number that parts write in base 60, the greatest first. -/
def sixtiesFloat (parts : List (List Char)) : Except NumberFault Binary64 := do
  let parts ← parts.mapM readFloat
  weightedSum parts.reverse 1 .zero

/-- The number that a text after its sign writes: one of the words for infinity and not-a-number, a
numeral, or parts in base 60 between colons. -/
def unsignedFloat (cs : List Char) : Except NumberFault Binary64 :=
  if cs = ".inf".toList then .ok (.infinite false)
  else if cs = ".nan".toList then .ok .quietNan
  else if ':' ∈ cs then sixtiesFloat (cs.splitOn ':')
  else readFloat cs

def floatOf (cs : List Char) : Except Fault Binary64 := do
  let cs := (ungrouped cs).map Char.toLower
  if cs.isEmpty then .error .emptyNumber
  else
    let (negative, body) := splitSign cs
    let x ← orNumberFault (unsignedFloat body)
    return if negative then x.neg else x

/-! ### Bytes -/

/-- The value of a digit of base 64. -/
def digit64? (c : Char) : Option Nat :=
  if 'A' ≤ c && c ≤ 'Z' then some (c.toNat - 'A'.toNat)
  else if 'a' ≤ c && c ≤ 'z' then some (c.toNat - 'a'.toNat + 26)
  else if c.isDigit then some (c.toNat - '0'.toNat + 52)
  else if c == '+' then some 62
  else if c == '/' then some 63
  else none

/-- The digits of a text in base 64, after the reversed digits `acc`. They come in groups of four,
of which `place` digits and then `filled` equality signs are read; equality signs end the text by
filling a group of two digits at least. Characters without value are skipped. -/
def digits64? : List Char → Nat → Nat → List Nat → Option (List Nat)
  | [], place, _, acc => if place = 0 then some acc.reverse else none
  | c :: cs, place, filled, acc =>
    if c == '=' then
      if place < 2 then digits64? cs place filled acc
      else if 3 ≤ place + filled then some acc.reverse
      else digits64? cs place (filled + 1) acc
    else
      match digit64? c with
      | some d => digits64? cs ((place + 1) % 4) 0 (d :: acc)
      | none => digits64? cs place filled acc

/-- The bytes that groups of four digits of base 64 write, after the reversed bytes `acc`; a last
group may have two or three. -/
def bytesOfDigits : List Nat → List UInt8 → List UInt8
  | a :: b :: c :: d :: rest, acc =>
    let n := ((a * 64 + b) * 64 + c) * 64 + d
    bytesOfDigits rest (n.toUInt8 :: (n / 256).toUInt8 :: (n / 65536).toUInt8 :: acc)
  | [a, b, c], acc =>
    let n := (a * 64 + b) * 64 + c
    ((n / 4).toUInt8 :: (n / 1024).toUInt8 :: acc).reverse
  | [a, b], acc => (((a * 64 + b) / 16).toUInt8 :: acc).reverse
  | _, acc => acc.reverse

/-- The bytes that a text in base 64 writes; it holds ASCII only. -/
def bytesOf (cs : List Char) : Except Fault (List UInt8) :=
  if cs.any (·.toNat ≥ 128) then .error .malformed
  else
    match digits64? cs 0 0 [] with
    | some digits => .ok (bytesOfDigits digits [])
    | none => .error .malformed

/-! ### Values -/

/-- The truth value that a word gives, whatever its case. -/
def truthOf (text : String) : Except Fault Bool :=
  match truthWords.lookup (.ofList (text.toList.map Char.toLower)) with
  | some b => .ok b
  | none => .error .noTruthValue

def momentOf (cs : List Char) : Except Fault Moment :=
  match Moment.ofText? (dropFinalBreak cs) with
  | none => .error .noMoment
  | some m => if m.inCalendar then .ok m else .error .impossibleDate

/-- The value of a scalar of a given kind. -/
def Scalar.ofText (tag : Tag) (text : String) : Except Fault Scalar :=
  match tag with
  | .null => .ok .null
  | .bool => (truthOf text).map .bool
  | .int => (intOf text.toList).map .int
  | .float => (floatOf text.toList).map .float
  | .timestamp => (momentOf text.toList).map .moment
  | .text => .ok (.text text)
  | .binary => (bytesOf text.toList).map .binary
  | _ => .error .malformed

end Montage.Yaml
