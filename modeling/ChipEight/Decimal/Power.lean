/-!
# Powers of ten
-/

namespace ChipEight.Decimal

def tenTo (n : Nat) : Nat := Nat.pow 10 n

theorem tenTo_mono {m n : Nat} (le : m ≤ n) : tenTo m ≤ tenTo n :=
  Nat.pow_le_pow_right (by decide) le

end ChipEight.Decimal
