/-!
# Tabs

Tabs stand for the spaces up to the next column that is a multiple of eight. Columns count from the
last line feed or carriage return.
-/

namespace ChipEight.Text.Tabs

/-- The distance from one tab stop to the next. -/
def stop : Nat := 8

/-- Puts the expansion of a character behind an expanded text, which is kept backwards with the
    column at its end. -/
def push (state : List Char × Nat) (c : Char) : List Char × Nat :=
  let (text, column) := state
  if c = '\t' then
    let gap := stop - column % stop
    (List.replicate gap ' ' ++ text, column + gap)
  else if c = '\n' ∨ c = '\r' then (c :: text, 0)
  else (c :: text, column + 1)

/-- A text with spaces for its tabs. -/
def expand (text : List Char) : List Char :=
  (text.foldl push ([], 0)).1.reverse

/-- Characters other than tabs are put behind the expanded text as they are. -/
theorem foldl_push (text expanded : List Char) (column : Nat) (h : '\t' ∉ text) :
    (text.foldl push (expanded, column)).1 = text.reverse ++ expanded := by
  induction text generalizing expanded column with
  | nil => rfl
  | cons c text ih =>
    obtain ⟨notTab, rest⟩ := List.ne_and_not_mem_of_not_mem_cons h
    rw [List.foldl_cons]
    by_cases lineEnd : c = '\n' ∨ c = '\r'
    · rw [show push (expanded, column) c = (c :: expanded, 0) by simp [push, notTab.symm, lineEnd], ih _ _ rest]
      simp
    · rw [show push (expanded, column) c = (c :: expanded, column + 1) by simp [push, notTab.symm, lineEnd],
        ih _ _ rest]
      simp

/-- A text without tabs stays what it is. -/
theorem expand_eq_self (text : List Char) (h : '\t' ∉ text) : expand text = text := by
  simp [expand, foldl_push text [] 0 h]

end ChipEight.Text.Tabs
