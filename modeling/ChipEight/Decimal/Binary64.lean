import ChipEight.Decimal.Power

/-!
# Binary floating point

Numbers with a mantissa of 53 bits and an exponent of two, as 64 bits hold them, and how a decimal
number becomes one: to the nearest, of two equally near ones to the even one, and to infinity beyond
the largest.
-/

namespace ChipEight.Decimal

/-- A number with 53 significant bits, or none at all. -/
inductive Binary64
  | nan
  | infinite (negative : Bool)
  /-- The number `mantissa * 2 ^ exponent`. The mantissa is below `2 ^ 53`, and as large as it can
      be with an exponent of no less than `-1074`. -/
  | finite (negative : Bool) (mantissa : Nat) (exponent : Int)
  deriving DecidableEq, Repr

namespace Binary64

def minExponent : Int := -1074

def maxExponent : Int := 971

/-- A quotient to the nearest whole number, of two equally near ones to the even one. -/
def roundDiv (num den : Nat) : Nat :=
  let quotient := num / den
  let rest := num % den
  if den < 2 * rest ∨ (2 * rest = den ∧ quotient % 2 = 1) then quotient + 1 else quotient

/-- The least mantissa of 53 bits. -/
def leastFull : Nat := 0x10000000000000

/-- A quotient divided by a power of two, as a numerator and a denominator. -/
def unscale (num den : Nat) (exponent : Int) : Nat × Nat :=
  (num <<< (-exponent).toNat, den <<< exponent.toNat)

/-- The exponent at which a quotient has a mantissa of 53 bits, or the least one. -/
def exponentOf (num den : Nat) : Int :=
  let guess : Int := (num.log2 : Int) - (den.log2 : Int) - 52
  let (n, d) := unscale num den guess
  max minExponent (if n < leastFull * d then guess - 1 else guess)

def ofQuotient (negative : Bool) (num den : Nat) : Binary64 :=
  let exponent := exponentOf num den
  let (n, d) := unscale num den exponent
  let rounded := roundDiv n d
  -- Rounding may have come to the next power of two.
  let (mantissa, exponent) := if rounded < 2 * leastFull then (rounded, exponent) else (leastFull, exponent + 1)
  if maxExponent < exponent then .infinite negative else .finite negative mantissa exponent

def ofDecimal (negative : Bool) (significand : Nat) (exponent : Int) : Binary64 :=
  -- No power is computed where the leading digit alone tells that the number is beyond the largest,
  -- or less than half of the least.
  let leading : Int := ((Nat.toDigits 10 significand).length : Int) + exponent
  if significand = 0 ∨ leading < -330 then .finite negative 0 minExponent
  else if 330 < leading then .infinite negative
  else ofQuotient negative (significand * tenTo exponent.toNat) (tenTo (-exponent).toNat)

end Binary64

end ChipEight.Decimal
