/-!
Binary floating-point numbers of 53 significant bits, held exactly. Every operation rounds
its exact result to the nearest number, a tie to the even mantissa.
-/

namespace Conduit.Decimal

/-- The magnitude `mantissa * 2 ^ exponent`. In normal form the exponent is at least `-1074`
and the mantissa has 53 bits, or fewer at the least exponent.
-/
structure Binary64 where
  mantissa : Nat
  exponent : Int
  deriving DecidableEq, Repr

namespace Binary64

/-- The least exponent. -/
def leastExponent : Int := -1074

/-- The largest exponent of a finite number. -/
def largestExponent : Int := 971

/-- The quotient rounded to the nearest integer, a tie to the even one. -/
def roundQuotient (num den : Nat) : Nat :=
  let quotient := num / den
  let twice := 2 * (num % den)
  if twice < den then quotient
  else if twice = den then quotient + quotient % 2
  else quotient + 1

/-- `num / den / 2 ^ exponent`, again as numerator and denominator. -/
def scaled (num den : Nat) (exponent : Int) : Nat × Nat :=
  if exponent ≥ 0 then (num, den * Nat.pow 2 exponent.toNat)
  else (num * Nat.pow 2 (-exponent).toNat, den)

/-- The number nearest to `num / den`, or none if that is past the largest one. The bit
lengths of numerator and denominator give the exponent up to one.
-/
def ofRatio? (num den : Nat) : Option Binary64 :=
  let low := max ((num.log2 : Int) - den.log2 - 53) leastExponent
  let (n, d) := scaled num den low
  let exponent := if n / d < Nat.pow 2 53 then low else low + 1
  let (n, d) := scaled num den exponent
  let mantissa := roundQuotient n d
  let number : Binary64 :=
    if mantissa < Nat.pow 2 53 then ⟨mantissa, exponent⟩
    else ⟨Nat.pow 2 52, exponent + 1⟩
  if number.exponent ≤ largestExponent then some number else none

/-- The exact value as a quotient. -/
def ratio (x : Binary64) : Nat × Nat :=
  if x.exponent ≥ 0 then (x.mantissa * Nat.pow 2 x.exponent.toNat, 1)
  else (x.mantissa, Nat.pow 2 (-x.exponent).toNat)

def mul? (x y : Binary64) : Option Binary64 :=
  ofRatio? (x.ratio.1 * y.ratio.1) (x.ratio.2 * y.ratio.2)

/-- The quotient by a number other than zero. -/
def div? (x y : Binary64) : Option Binary64 :=
  ofRatio? (x.ratio.1 * y.ratio.2) (x.ratio.2 * y.ratio.1)

/-- The number nearest to a natural number. -/
def ofNat? (n : Nat) : Option Binary64 := ofRatio? n 1

end Binary64

end Conduit.Decimal
