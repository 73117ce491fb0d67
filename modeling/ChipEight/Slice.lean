/-!
# Slices

Assigning a block to a slice of an array: the entries of the block come in the place of those from
`start` up to, but not including, `stop`. Nothing asks for as many of the ones as of the other, so
the array gets shorter or longer if the numbers differ.
-/

namespace ChipEight

variable {α : Type}

/-- The entries with a block in the place of those from `start` up to, but not including, `stop`. -/
def splice (entries : Array α) (start stop : Nat) (block : List α) : Array α :=
  (entries.toList.take start ++ block ++ entries.toList.drop stop).toArray

variable (entries : Array α) (start : Nat) (block : List α)

theorem size_splice (stop : Nat) :
    (splice entries start stop block).size =
      min start entries.size + block.length + (entries.size - stop) := by
  simp [splice, Nat.add_assoc]

/-- A block of as many entries as it replaces leaves all others where they are. -/
theorem getElem?_splice (inside : start ≤ entries.size) (i : Nat) :
    (splice entries start (start + block.length) block)[i]? =
      if start ≤ i ∧ i < start + block.length then block[i - start]? else entries[i]? := by
  have front : (entries.toList.take start).length = start := by
    rw [List.length_take, Array.length_toList, Nat.min_eq_left inside]
  rw [splice, List.getElem?_toArray, List.append_assoc]
  by_cases before : i < start
  · rw [List.getElem?_append_left (by omega), List.getElem?_take_of_lt before,
      Array.getElem?_toList, if_neg (by omega)]
  · rw [List.getElem?_append_right (by omega), front]
    by_cases within : i - start < block.length
    · rw [List.getElem?_append_left within, if_pos (by omega)]
    · rw [List.getElem?_append_right (Nat.not_lt.mp within), List.getElem?_drop,
        Array.getElem?_toList, if_neg (by omega)]
      congr 1
      omega

end ChipEight
