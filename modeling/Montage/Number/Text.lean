import Montage.Number.Binary64
import Montage.Number.Decimal

/-!
# Binary64 numbers in base ten

Three ways to write a number: with a fixed number of decimals, with six significant digits, and with
the fewest digits that read back. All start from the exact quotient of whole numbers.
-/

namespace Montage

def natDigits (n : Nat) : List Char := Nat.toDigits 10 n

/-- A number in the form `digits · 10 ^ exponent`. -/
structure Scientific where
  digits : Nat
  exponent : Int
  deriving DecidableEq, Repr

/-- The exponent of the leading digit of `num / den`, a positive quotient. -/
def leadingExponent (num den : Nat) : Int :=
  let e : Int := ((natDigits num).length : Int) - (natDigits den).length
  if den * powerOfTen e.toNat ≤ num * powerOfTen (-e).toNat then e else e - 1

/-- The quotient `num / den` in steps of `10 ^ exponent`, as a quotient. -/
def inSteps (num den : Nat) (exponent : Int) : Nat × Nat :=
  (num * powerOfTen (-exponent).toNat, den * powerOfTen exponent.toNat)

/-- A positive quotient rounded to `count` significant digits, ties to even. -/
def significant (count num den : Nat) : Scientific :=
  let e := leadingExponent num den - (count - 1 : Nat)
  let (n, d) := inSteps num den e
  let digits := roundQuotient n d
  if digits = powerOfTen count then ⟨powerOfTen (count - 1), e + 1⟩ else ⟨digits, e⟩

/-! ### Layout of digits -/

/-- How digits and exponent are laid out. -/
structure NumberStyle where
  /-- The least exponent of the leading digit that is written without an exponent. -/
  leastPositional : Int
  /-- The greatest exponent of the leading digit that is written without an exponent. -/
  greatestPositional : Int
  /-- Whether a whole number without exponent ends in `.0`. -/
  marksWhole : Bool

def dropEndZeros (cs : List Char) : List Char := (cs.reverse.dropWhile (· == '0')).reverse

/-- Whole part and fraction, with a point between them if there is a fraction. -/
def withPoint (whole fraction : List Char) : List Char :=
  if fraction.isEmpty then whole else whole ++ '.' :: fraction

/-- A positive number in a style; zeros at the end of a fraction are not written, and an exponent
has a sign and two digits at least. -/
def NumberStyle.text (style : NumberStyle) (x : Scientific) : List Char :=
  let ds := natDigits x.digits
  let e := x.exponent + (ds.length - 1 : Nat)
  if style.leastPositional ≤ e && e ≤ style.greatestPositional then
    let (whole, fraction) :=
      if e < 0 then (['0'], List.replicate (-e - 1).toNat '0' ++ ds)
      else
        let padded := ds ++ List.replicate (e.toNat + 1 - ds.length) '0'
        (padded.take (e.toNat + 1), padded.drop (e.toNat + 1))
    let fraction := dropEndZeros fraction
    withPoint whole (if fraction.isEmpty && style.marksWhole then ['0'] else fraction)
  else
    let mantissa := withPoint (ds.take 1) (dropEndZeros (ds.drop 1))
    let size := natDigits e.natAbs
    mantissa ++ 'e' :: (if e < 0 then '-' else '+') :: (List.replicate (2 - size.length) '0' ++ size)

/-- Short measures: exponents from -4 to 5 are positional. -/
def NumberStyle.short : NumberStyle := ⟨-4, 5, false⟩

/-- Exact numbers: exponents from -4 to 15 are positional, and whole numbers end in `.0`. -/
def NumberStyle.exact : NumberStyle := ⟨-4, 15, true⟩

/-! ### Fewest digits -/

def Scientific.magnitude? (x : Scientific) : Option Magnitude :=
  Magnitude.round? (x.digits * powerOfTen x.exponent.toNat * unitsPerOne)
    (powerOfTen (-x.exponent).toNat)

/-- The decimal with at most `count` significant digits that is nearest to a positive magnitude
among the two around it, if it reads back as the magnitude. -/
def readsBack? (a : Magnitude) (count : Nat) : Option Scientific :=
  let e := leadingExponent a.units unitsPerOne - (count - 1 : Nat)
  let (n, d) := inSteps a.units unitsPerOne e
  let below := n / d
  let nearest := roundQuotient n d
  let farther := if nearest = below then below + 1 else below
  [nearest, farther].findSome? fun digits =>
    let x : Scientific := ⟨digits, e⟩
    if x.magnitude? = some a then some x else none

/-- The decimal with the fewest digits that reads back as a positive magnitude; seventeen digits
always do. -/
def shortest (a : Magnitude) : Scientific :=
  ((List.range 17).findSome? fun i => readsBack? a (i + 1)).getD
    (significant 17 a.units unitsPerOne)

namespace Binary64

/-- Text for a number whose finite magnitudes are written by `write`. -/
def textWith (write : Magnitude → List Char) : Binary64 → String
  | .nan _ => "nan"
  | .infinite negative => if negative then "-inf" else "inf"
  | .finite negative a => .ofList ((if negative then ['-'] else []) ++ write a)

/-- The number with six significant digits. -/
def shortText : Binary64 → String :=
  textWith fun a =>
    if a.units = 0 then ['0'] else NumberStyle.short.text (significant 6 a.units unitsPerOne)

/-- The number with the fewest digits that read back. -/
def exactText : Binary64 → String :=
  textWith fun a =>
    if a.units = 0 then ['0', '.', '0'] else NumberStyle.exact.text (shortest a)

/-- The number with `places` decimals, ties to even. -/
def fixedText (places : Nat) : Binary64 → String :=
  textWith fun a =>
    let n := roundQuotient (a.units * powerOfTen places) unitsPerOne
    let fraction := natDigits (n % powerOfTen places)
    withPoint (natDigits (n / powerOfTen places))
      (List.replicate (places - fraction.length) '0' ++ fraction)

end Binary64

end Montage
