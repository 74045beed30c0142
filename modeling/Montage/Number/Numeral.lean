import Montage.Number.Binary64
import Montage.Text.Blank
import Montage.Text.Digit

/-!
# Numerals in free form

Numbers as people write them. Blanks around a numeral do not count, a digit of any script is a
digit, and a sign may stand in front; digits in the bases 2, 8 and 16 may follow a mark of their
base. `readInt` reads whole numbers and `readFloat` binary64 numbers.
-/

namespace Montage

/-! ### Digits in a base -/

/-- The value of a digit in a base up to 16. -/
def digitIn? (base : Nat) (c : Char) : Option Nat :=
  let v :=
    if c.isDigit then c.toNat - '0'.toNat
    else if 'a' ≤ c && c ≤ 'f' then c.toNat - 'a'.toNat + 10
    else if 'A' ≤ c && c ≤ 'F' then c.toNat - 'A'.toNat + 10
    else base
  if v < base then some v else none

/-- Joins each two neighbours of digits, the least first, to one digit of the square of the base, in
front of the reversed digits `acc`. -/
def joinDigits (base : Nat) : List Nat → List Nat → List Nat
  | low :: high :: rest, acc => joinDigits base rest ((low + base * high) :: acc)
  | rest, acc => acc.reverse ++ rest

/-- Joining digits in pairs halves their number. -/
theorem length_joinDigits (base : Nat) (digits acc : List Nat) :
    (joinDigits base digits acc).length = acc.length + (digits.length + 1) / 2 := by
  fun_induction joinDigits base digits acc with
  | case1 low high rest acc ih => simp only [ih, List.length_cons]; omega
  | case2 rest acc h =>
    match rest, h with
    | [], _ => simp
    | [d], _ => simp
    | low :: high :: rest, h => exact absurd rfl (h low high rest)

/-- The number that digits write in a base, the least first. Joining neighbours halves the number of
digits, so long numerals take few large products. -/
def positional (base : Nat) : List Nat → Nat
  | [] => 0
  | [d] => d
  | d :: e :: rest => positional (base * base) (joinDigits base (d :: e :: rest) [])
termination_by digits => digits.length
decreasing_by
  simp only [length_joinDigits, List.length_cons, List.length_nil]
  omega

/-- Joining digits in pairs keeps the number that they write. -/
theorem foldr_joinDigits (base : Nat) (digits acc : List Nat) :
    (joinDigits base digits acc).foldr (fun d n => d + base * base * n) 0 =
      acc.reverse.foldr (fun d n => d + base * base * n)
        (digits.foldr (fun d n => d + base * n) 0) := by
  fun_induction joinDigits base digits acc with
  | case1 low high rest acc ih =>
    rw [ih]
    simp [Nat.mul_add, Nat.mul_assoc, Nat.add_assoc]
  | case2 rest acc h =>
    match rest, h with
    | [], _ => simp
    | [d], _ => simp
    | low :: high :: rest, h => exact absurd rfl (h low high rest)

/-- Each digit counts as often as its place says. -/
theorem positional_eq_foldr (base : Nat) (digits : List Nat) :
    positional base digits = digits.foldr (fun d n => d + base * n) 0 := by
  fun_induction positional base digits with
  | case1 => rfl
  | case2 => simp
  | case3 base d e rest ih => simp only [ih, foldr_joinDigits, List.reverse_nil, List.foldr_nil]

def readDigits? (base : Nat) (cs : List Char) : Option Nat :=
  if cs.isEmpty then none
  else (cs.mapM (digitIn? base)).map fun digits => positional base digits.reverse

/-! ### The frame of a numeral -/

/-- A character of a numeral in ASCII: a digit of any script as the digit of its value, and a blank
as a space. -/
def asciiChar? (c : Char) : Option Char :=
  if c.toNat < 127 then some c
  else if isBlank c then some ' '
  else (digitValue? c).map Nat.digitChar

/-- A blank character of ASCII, other than the four separator controls. -/
def isAsciiBlank (c : Char) : Bool := c == ' ' || ('\t' ≤ c && c ≤ '\r')

/-- A numeral in ASCII without the blanks at its two ends. -/
def numeralBody? (cs : List Char) : Option (List Char) :=
  (cs.mapM asciiChar?).map fun cs =>
    ((cs.dropWhile isAsciiBlank).reverse.dropWhile isAsciiBlank).reverse

/-- The text after the mark of a base: `0b`, `0o` or `0x` in either case. -/
def dropBaseMark (base : Nat) : List Char → List Char
  | '0' :: mark :: cs =>
    let marks := if base = 2 then ['b', 'B'] else if base = 8 then ['o', 'O']
      else if base = 16 then ['x', 'X'] else []
    if mark ∈ marks then cs else '0' :: mark :: cs
  | cs => cs

/-! ### Numbers -/

/-- The whole number that a text writes in a base; in base ten it has 4300 digits at most. -/
def readInt (base : Nat) (cs : List Char) : Except NumberFault Int :=
  match numeralBody? cs with
  | none => .error .notNumeral
  | some body =>
    let (negative, body) := splitSign body
    let digits := dropBaseMark base body
    if digits.isEmpty || !digits.all (fun c => (digitIn? base c).isSome) then .error .notNumeral
    else if base = 10 && digitLimit < digits.length then .error .tooManyDigits
    else
      match readDigits? base digits with
      | some n => .ok (if negative then -(n : Int) else n)
      | none => .error .notNumeral

/-- The exponent that ends a numeral: none written, or a mark and a numeral with or without sign. -/
def exponentOf? : List Char → Option Int
  | [] => some 0
  | 'e' :: cs =>
    let (negative, digits) := splitSign cs
    (readDigits? 10 digits).map fun n => if negative then -(n : Int) else n
  | _ => none

def readDecimal? (negative : Bool) (cs : List Char) : Option Binary64 := do
  let whole := cs.takeWhile Char.isDigit
  let rest := cs.dropWhile Char.isDigit
  let (fraction, rest) :=
    match rest with
    | '.' :: rest => (rest.takeWhile Char.isDigit, rest.dropWhile Char.isDigit)
    | rest => ([], rest)
  let digits ← readDigits? 10 (whole ++ fraction)
  let exponent ← exponentOf? rest
  return .ofScientific negative digits (exponent - fraction.length)

/-- The binary64 number that a text writes, in either case; there are words for infinity and for
not-a-number. -/
def readFloat (cs : List Char) : Except NumberFault Binary64 :=
  match numeralBody? cs with
  | none => .error .notNumeral
  | some body =>
    let (negative, body) := splitSign (body.map Char.toLower)
    if body = "inf".toList || body = "infinity".toList then .ok (.infinite negative)
    else if body = "nan".toList then .ok .quietNan
    else
      match readDecimal? negative body with
      | some x => .ok x
      | none => .error .notNumeral

end Montage
