/-!
# Decimal numerals

Reading and writing whole numbers in base ten. A numeral of more than 4300 digits is neither read
nor written.
-/

namespace Montage

/-- Why a number cannot be computed, read or written. -/
inductive NumberFault
  /-- The numeral would have, or has, more than 4300 digits. -/
  | tooManyDigits
  /-- The number is larger than every binary64 number. -/
  | tooLarge
  /-- The number has an imaginary part. -/
  | notReal
  /-- The text is no numeral. -/
  | notNumeral
  deriving DecidableEq, Repr

def powerOfTen (n : Nat) : Nat := Nat.pow 10 n

/-- The greatest number of digits of a numeral. -/
def digitLimit : Nat := 4300

def decimalText (n : Int) : Except NumberFault String :=
  if powerOfTen digitLimit ≤ n.natAbs then .error .tooManyDigits else .ok n.repr

def digitsValue (digits : List Char) : Nat := Nat.ofDigitChars 10 digits 0

/-- Whether a minus sign stands in front of a text, and what follows its sign, if it has one. -/
def splitSign : List Char → Bool × List Char
  | '-' :: cs => (true, cs)
  | '+' :: cs => (false, cs)
  | cs => (false, cs)

/-- Which signs a numeral may have. -/
inductive Signs
  /-- A plus sign or none. -/
  | unsigned
  /-- A plus sign, a minus sign or none. -/
  | signed
  deriving DecidableEq, Repr

def Signs.admits : Signs → Char → Bool
  | .unsigned, c => c == '+'
  | .signed, c => c == '+' || c == '-'

def Signs.digitsOf (signs : Signs) : List Char → List Char
  | [] => []
  | c :: cs => if signs.admits c then cs else c :: cs

/-- Whether a text is an optional sign and one or more ASCII digits. -/
def Signs.isNumeral (signs : Signs) (cs : List Char) : Bool :=
  !(signs.digitsOf cs).isEmpty && (signs.digitsOf cs).all Char.isDigit

def dropZeros (cs : List Char) : List Char := cs.dropWhile (· == '0')

/-- The number that a numeral writes. -/
def numeralValue (cs : List Char) : Int :=
  match cs with
  | '-' :: digits => -(digitsValue digits : Int)
  | '+' :: digits => digitsValue digits
  | digits => digitsValue digits

/-- Reads a numeral of at most ten significant digits as a number from `low` to `high`; any other
text reads as none. -/
def readBounded (signs : Signs) (low high : Int) (text : String) :
    Except NumberFault (Option Int) :=
  let cs := text.toList
  let digits := signs.digitsOf cs
  if !signs.isNumeral cs || 10 < (dropZeros digits).length then .ok none
  else if digitLimit < digits.length then .error .tooManyDigits
  else
    let n := numeralValue cs
    .ok (if n < low || high < n then none else some n)

end Montage
