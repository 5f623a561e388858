/-!
Rounding of non-negative fractions, a half to the even neighbour: to an integer, and to 53
significant bits.
-/

namespace ChannelAccess

/-- `num / den` as the nearest integer, a half to the even neighbour. -/
def roundHalfEven (num den : Nat) : Nat :=
  let whole := num / den
  let rest := num % den
  if 2 * rest < den then whole
  else if den < 2 * rest then whole + 1
  else whole + whole % 2

structure Fraction where
  num : Nat
  den : Nat
  deriving DecidableEq, Repr

namespace Fraction

/-- The exponent of the greatest power of two that does not exceed the fraction. -/
def binade (f : Fraction) : Int :=
  let guess : Int := (f.num.log2 : Int) - f.den.log2
  if f.den <<< guess.toNat ≤ f.num <<< (-guess).toNat then guess else guess - 1

/-- The nearest number with 53 significant bits. -/
def nearestDouble (f : Fraction) : Fraction :=
  let unit := f.binade - 52
  let steps := roundHalfEven (f.num <<< (-unit).toNat) (f.den <<< unit.toNat)
  ⟨steps <<< unit.toNat, 1 <<< (-unit).toNat⟩

end Fraction

end ChannelAccess
