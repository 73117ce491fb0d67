import ChipEight.Decimal.Power

/-!
# The limit of decimal text

Reading and writing long decimal numbers takes time that grows with the square of their length, so
both are refused beyond a number of digits. Hexadecimal and binary text has no such limit.
-/

namespace ChipEight.Decimal

/-- The most digits that decimal text of an integer may have, leading zeros included. -/
def digitLimit : Nat := 4300

def limitMessage : String := "Exceeds the limit (4300 digits) for integer string conversion"

/-- Whether the decimal text of an integer keeps to the limit. -/
def isWritable (n : Int) : Bool :=
  n.natAbs < tenTo digitLimit

/-- An integer below a power of ten that keeps to the limit keeps to it as well. -/
theorem isWritable_of_lt {n : Int} {digits : Nat} (small : n.natAbs < tenTo digits)
    (short : digits ≤ digitLimit) : isWritable n :=
  decide_eq_true (Nat.lt_of_lt_of_le small (tenTo_mono short))

end ChipEight.Decimal
