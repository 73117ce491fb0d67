import ChipEight.Nibble

/-!
# The keypad

Sixteen keys, each pressed or not.
-/

namespace ChipEight

/-- A key, by the digit on it. -/
abbrev Key := Nibble

def Key.ofInt? (n : Int) : Option Key :=
  if h : 0 ≤ n ∧ n < 16 then some ⟨n.toNat, by omega⟩ else none

structure Keypad where
  keys : Vector Bool 16 := Vector.replicate 16 false
  deriving DecidableEq, Repr

namespace Keypad

def press (p : Keypad) (key : Key) : Keypad := ⟨p.keys.set key true⟩

def release (p : Keypad) (key : Key) : Keypad := ⟨p.keys.set key false⟩

/-- Whether the key that the low nibble of `index` names is pressed. -/
def isPressed (p : Keypad) (index : Int) : Bool :=
  p.keys[Nibble.ofInt index]

def pressed (p : Keypad) : List Key :=
  (List.finRange 16).filter fun key => p.keys[key]

def firstPressed? (p : Keypad) : Option Key :=
  (List.finRange 16).find? fun key => p.keys[key]

theorem getElem_press (p : Keypad) (key other : Key) :
    (p.press key).keys[other] = (decide (key = other) || p.keys[other]) := by
  by_cases h : key = other
  · subst h
    simp [press]
  · have : key.val ≠ other.val := fun e => h (Fin.ext e)
    simp [press, h, Vector.getElem_set_ne, this]

theorem getElem_release (p : Keypad) (key other : Key) :
    (p.release key).keys[other] = (!decide (key = other) && p.keys[other]) := by
  by_cases h : key = other
  · subst h
    simp [release]
  · have : key.val ≠ other.val := fun e => h (Fin.ext e)
    simp [release, h, Vector.getElem_set_ne, this]

end Keypad

end ChipEight
