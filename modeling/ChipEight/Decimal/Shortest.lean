import ChipEight.Decimal.Binary64

/-!
# Shortest decimal text

The fewest digits that read back as a number, and of those the nearest to it. The decimal grid is
made finer digit by digit until one of the two grid points next to the number lies among the reals
that round to it.
-/

namespace ChipEight.Decimal.Binary64

/-- The reals that round to `mantissa * 2 ^ exponent`, as a lower and an upper bound in units of
    `2 ^ (exponent - 2)`. -/
def bounds (mantissa : Nat) (exponent : Int) : Nat × Nat :=
  -- Below a power of two the numbers lie twice as close.
  (4 * mantissa - (if mantissa = leastFull ∧ minExponent < exponent then 1 else 2), 4 * mantissa + 2)

def leadingExponent (mantissa : Nat) (exponent : Int) : Int :=
  let scaled := ((mantissa <<< exponent.toNat) * tenTo 350) >>> (-exponent).toNat
  (Nat.toDigits 10 scaled).length - 351

/-- The point of the grid `10 ^ grid` that stands for the number `mantissa * 2 ^ exponent`, if one
    of the two points next to it rounds to it: the nearer one, and of two equally near ones the even
    one. -/
def gridPoint? (mantissa : Nat) (exponent grid : Int) : Option Nat :=
  let unit : Int := exponent - 2
  let point (n : Nat) : Nat := (n * tenTo grid.toNat) <<< (-unit).toNat
  let binary (n : Nat) : Nat := (n <<< unit.toNat) * tenTo (-grid).toNat
  let (low, high) := bounds mantissa exponent
  let (low, value, high) := (binary low, binary (4 * mantissa), binary high)
  let rounds (n : Nat) : Bool :=
    if mantissa % 2 = 0 then low ≤ point n && point n ≤ high else low < point n && point n < high
  let floor := value / point 1
  let below := value - point floor
  let above := point (floor + 1) - value
  let nearer := if below < above ∨ (below = above ∧ floor % 2 = 0) then floor else floor + 1
  let other := if nearer = floor then floor + 1 else floor
  if rounds nearer then some nearer else if rounds other then some other else none

/-- The digits of a positive number as a whole number, and the exponent of ten of its last digit. -/
def shortest (mantissa : Nat) (exponent : Int) : Nat × Int :=
  let leading := leadingExponent mantissa exponent
  let found := (List.range 17).findSome? fun (more : Nat) =>
    (gridPoint? mantissa exponent (leading - (more : Int))).map fun n => (n, leading - (more : Int))
  -- Seventeen digits always read back.
  found.getD (0, 0)

end ChipEight.Decimal.Binary64
