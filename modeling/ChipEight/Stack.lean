/-!
# The call stack

Sixteen slots and the number of them in use. A pop leaves its value in the slot, so the slots are
not just the values that are live: `Stack.toList` is those.
-/

namespace ChipEight

/-- Return addresses, oldest in slot 0. -/
structure Stack where
  slots : Vector Int 16 := Vector.replicate 16 0
  depth : Nat := 0
  depth_le : depth ≤ 16 := by omega
  deriving DecidableEq, Repr

namespace Stack

def toList (s : Stack) : List Int :=
  s.slots.toList.take s.depth

/-- Takes the next slot for `value`; nothing, if none is free. -/
def push? (s : Stack) (value : Int) : Option Stack :=
  if h : s.depth < 16 then some ⟨s.slots.set s.depth value, s.depth + 1, h⟩ else none

/-- Gives up the youngest live slot and answers its value; nothing, if none is live. -/
def pop? (s : Stack) : Option (Int × Stack) :=
  match s with
  | ⟨_, 0, _⟩ => none
  | ⟨slots, depth + 1, h⟩ => some (slots[depth], ⟨slots, depth, Nat.le_of_lt h⟩)

@[simp] theorem length_toList (s : Stack) : s.toList.length = s.depth := by
  rw [toList, List.length_take, Vector.length_toList, Nat.min_eq_left s.depth_le]

theorem push?_isSome (s : Stack) (value : Int) : (s.push? value).isSome = decide (s.depth < 16) := by
  unfold push?
  split <;> simp [*]

theorem toList_of_push? {s t : Stack} {value : Int} (h : s.push? value = some t) :
    t.toList = s.toList ++ [value] := by
  unfold push? at h
  split at h
  · next free =>
    obtain rfl := Option.some.inj h
    simp only [toList, Vector.toList_set]
    rw [List.take_succ_eq_append_getElem (by simpa using free), List.getElem_set_self,
      List.take_set_of_le (Nat.le_refl _)]
  · simp at h

theorem toList_of_pop? {s t : Stack} {value : Int} (h : s.pop? = some (value, t)) :
    s.toList = t.toList ++ [value] := by
  obtain ⟨slots, depth, bound⟩ := s
  cases depth with
  | zero => simp [pop?] at h
  | succ depth =>
    simp only [pop?, Option.some.injEq, Prod.mk.injEq] at h
    obtain ⟨rfl, rfl⟩ := h
    simp only [toList]
    rw [List.take_succ_eq_append_getElem (by simpa using Nat.lt_of_succ_le bound)]
    simp

end Stack

end ChipEight
