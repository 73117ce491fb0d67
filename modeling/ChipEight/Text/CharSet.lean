/-!
# Sets of characters

A set of characters as the ordered code points where membership changes: the first of them is the
first member, the second is the first character behind it that is none, and so on.
-/

namespace ChipEight.Text

/-- A set of characters, given by the code points where membership changes. -/
structure CharSet where
  flips : Array Nat

namespace CharSet

/-- How many of the entries are at most `n`, which is known to lie in `low ... high`. The entries
    are in order, so halving finds it. -/
def rank (flips : Array Nat) (n low high : Nat) : Nat :=
  if low < high then
    let middle := (low + high) / 2
    if flips.getD middle 0 ≤ n then rank flips n (middle + 1) high else rank flips n low middle
  else low
termination_by high - low

/-- Whether a character is in the set: membership has changed an odd number of times up to it. -/
def contains (s : CharSet) (c : Char) : Bool :=
  rank s.flips c.toNat 0 s.flips.size % 2 == 1

end CharSet

end ChipEight.Text
