/-!
# Rounding quotients

A quotient of natural numbers rounded to a whole number, or to 53 significant binary digits. Ties go
to the even neighbour.
-/

namespace Montage

/-- The whole number nearest to `num / den`; of two that are equally near, the even one. -/
def roundQuotient (num den : Nat) : Nat :=
  let q := num / den
  let r := num % den
  if 2 * r < den then q
  else if den < 2 * r then q + 1
  else q + q % 2

/-- How many binary digits of `num / den` lie beyond the leading 53. -/
def excessBits (num den : Nat) : Nat := (num / den).log2 - 52

/-- The number nearest to `num / den` that is a multiple of a power of two and has at most 53
significant binary digits. -/
def roundBinary (num den : Nat) : Nat :=
  roundQuotient num (den <<< excessBits num den) <<< excessBits num den

end Montage
