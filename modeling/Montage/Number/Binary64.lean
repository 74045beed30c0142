import Montage.Number.Decimal
import Montage.Number.Rounding

/-!
# Binary64 numbers

The numbers of the IEEE 754 format with 64 bits. A finite one is a whole number of units of
2⁻¹⁰⁷⁴, the least positive one, with a sign; so sums, products and quotients are rounded from exact
whole numbers.
-/

namespace Montage

/-- The number of units in one. -/
def unitsPerOne : Nat := 1 <<< 1074

/-- The least number of units that takes all 53 binary digits. -/
def leastNormal : Nat := 1 <<< 52

/-- The least number of units that is too large: those in 2¹⁰²⁴. -/
def unitsLimit : Nat := unitsPerOne <<< 1024

theorem unitsLimit_pos : 0 < unitsLimit := by decide +kernel

/-- A finite binary64 number without its sign. -/
structure Magnitude where
  /-- How often it holds 2⁻¹⁰⁷⁴. -/
  units : Nat
  units_lt : units < unitsLimit
  deriving DecidableEq, Repr

namespace Magnitude

/-- The magnitude of a number of units, or none if it is too large. -/
def ofUnits? (n : Nat) : Option Magnitude :=
  if h : n < unitsLimit then some ⟨n, h⟩ else none

/-- The magnitude nearest to `num / den` units, or none if it is too large. -/
def round? (num den : Nat) : Option Magnitude := ofUnits? (roundBinary num den)

def ofNat? (n : Nat) : Option Magnitude := round? (n * unitsPerOne) 1

def add? (a b : Magnitude) : Option Magnitude := round? (a.units + b.units) 1

def sub? (a b : Magnitude) : Option Magnitude := round? (a.units - b.units) 1

def mul? (a b : Magnitude) : Option Magnitude := round? (a.units * b.units) unitsPerOne

def div? (a : Magnitude) (n : Nat) : Option Magnitude := round? a.units n

def zero : Magnitude := ⟨0, unitsLimit_pos⟩

def half : Magnitude :=
  ⟨1 <<< 1073, by decide +kernel⟩

def floor (a : Magnitude) : Nat := a.units / unitsPerOne

def isWhole (a : Magnitude) : Bool := a.units % unitsPerOne == 0

/-- The lower 63 bits of the format: the biased exponent and the fraction. -/
def toBits (a : Magnitude) : Nat :=
  if a.units < leastNormal then a.units
  else
    let k := a.units.log2 - 52
    (k <<< 52) + (a.units >>> k)

/-- The magnitude with given exponent and fraction fields; the greatest exponent field has none. -/
def ofFields? (exponent fraction : Nat) : Option Magnitude :=
  ofUnits? (if exponent = 0 then fraction else (leastNormal + fraction) <<< (exponent - 1))

end Magnitude

/-- A binary64 number. A NaN keeps its bits. -/
inductive Binary64
  | nan (bits : UInt64)
  | infinite (negative : Bool)
  | finite (negative : Bool) (magnitude : Magnitude)
  deriving DecidableEq, Repr

namespace Binary64

def ofBits (bits : UInt64) : Binary64 :=
  let n := bits.toNat
  let negative := n >>> 63 == 1
  let exponent := (n >>> 52) % 2048
  let fraction := n % leastNormal
  match Magnitude.ofFields? exponent fraction with
  | some a => .finite negative a
  | none => if fraction = 0 then .infinite negative else .nan bits

def signBit (negative : Bool) : Nat := if negative then 1 <<< 63 else 0

/-- The bits of a number. -/
def toBits : Binary64 → UInt64
  | .nan bits => bits
  | .infinite negative => .ofNat (signBit negative + 2047 <<< 52)
  | .finite negative a => .ofNat (signBit negative + a.toBits)

/-- A magnitude as a number, with infinity for one that is too large. -/
def ofMagnitude (negative : Bool) : Option Magnitude → Binary64
  | some a => .finite negative a
  | none => .infinite negative

def zero : Binary64 := .finite false .zero

/-- The NaN that arithmetic gives. -/
def quietNan : Binary64 := .nan 0x7ff8000000000000

def neg : Binary64 → Binary64
  | .nan bits => .nan bits
  | .infinite negative => .infinite !negative
  | .finite negative a => .finite (!negative) a

/-- The number nearest to a sum; two numbers that cancel give the positive zero. -/
def add : Binary64 → Binary64 → Binary64
  | .nan bits, _ => .nan bits
  | _, .nan bits => .nan bits
  | .infinite n, .infinite m => if n = m then .infinite n else quietNan
  | .infinite n, _ => .infinite n
  | _, .infinite m => .infinite m
  | .finite n a, .finite m b =>
    if n = m then ofMagnitude n (a.add? b)
    else if b.units < a.units then ofMagnitude n (a.sub? b)
    else if a.units < b.units then ofMagnitude m (b.sub? a)
    else zero

/-- The number nearest to a product; zero times infinity is not a number. -/
def mul : Binary64 → Binary64 → Binary64
  | .nan bits, _ => .nan bits
  | _, .nan bits => .nan bits
  | .infinite n, .infinite m => .infinite (n != m)
  | .infinite n, .finite m b => if b.units = 0 then quietNan else .infinite (n != m)
  | .finite n a, .infinite m => if a.units = 0 then quietNan else .infinite (n != m)
  | .finite n a, .finite m b => ofMagnitude (n != m) (a.mul? b)

def ofInt? (n : Int) : Option Binary64 :=
  (Magnitude.ofNat? n.natAbs).map (.finite (n < 0))

/-- The number nearest to `digits · 10 ^ exponent`. A number of `n + 1` binary digits has more than
`n / 4` decimal digits and at most `n / 3 + 1`, which tells numbers that are far too large or too
small without a power of ten. -/
def ofScientific (negative : Bool) (digits : Nat) (exponent : Int) : Binary64 :=
  if digits = 0 || exponent + (digits.log2 / 3 + 1 : Nat) < -400 then .finite negative .zero
  else if 400 < exponent + (digits.log2 / 4 : Nat) then .infinite negative
  else
    ofMagnitude negative
      (Magnitude.round? (digits * powerOfTen exponent.toNat * unitsPerOne)
        (powerOfTen (-exponent).toNat))

end Binary64

/-- A number: a whole one of any size, or a binary64 number. -/
inductive Number
  | int (n : Int)
  | float (x : Binary64)
  deriving DecidableEq, Repr

namespace Number

/-- The place of a number in the order: the infinities before and after all others, and these by
their units. A NaN has no place. -/
def place? : Number → Option (Int × Int)
  | .int n => some (0, n * unitsPerOne)
  | .float (.nan _) => none
  | .float (.infinite negative) => some (if negative then -1 else 1, 0)
  | .float (.finite negative a) => some (0, if negative then -(a.units : Int) else a.units)

/-- Whether a number is less than another; a NaN is not comparable. -/
def isLess (a b : Number) : Bool :=
  match a.place?, b.place? with
  | some (i, x), some (j, y) => i < j || (i == j && x < y)
  | _, _ => false

/-- The value brought into the range from `low` to `high`; where the range is empty, `low` wins. -/
def clamp (value low high : Number) : Number :=
  let upper := if value.isLess high then value else high
  if low.isLess upper then upper else low

end Number

end Montage
