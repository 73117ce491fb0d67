import ChipEight.Display
import Mathlib.Algebra.Ring.Parity
import Mathlib.Data.Int.ModEq
import Mathlib.Data.List.DropRight

/-!
# Toggles around the torus

Whatever is toggled and cleared, a display remembers of each pixel how often it was toggled since the
last clear, modulo two (`get_afterAll`). Nothing is lost at the edges: the number of a pixel stands
for its column modulo 64 and its row modulo 32 and for nothing else (`index_eq_iff_modEq`), also left
of the first column and above the first row. So the pixel at the end of a row has nothing to do with
the one at the start of the next.
-/

namespace ChipEight.Display

/-! ## Calls -/

/-- What is done to a display. -/
inductive Call
  | toggle (x y : Int)
  | clear
  deriving DecidableEq, Repr

/-- Whether a call toggles the pixel at `x`, `y`. -/
def Call.Touches (x y : Int) : Call → Prop
  | .toggle x' y' => x' ≡ x [ZMOD 64] ∧ y' ≡ y [ZMOD 32]
  | .clear => False

instance (x y : Int) : DecidablePred (Call.Touches x y)
  | .toggle _ _ => inferInstanceAs (Decidable (_ ∧ _))
  | .clear => inferInstanceAs (Decidable False)

/-- The number of toggles of the pixel at `x`, `y` since the last clear. -/
def toggles (calls : List Call) (x y : Int) : Nat :=
  (calls.rtakeWhile (· ≠ .clear)).countP (Call.Touches x y)

/-- What a call answers, if anything, and the display that it leaves. A toggle is the drawing of one
    pixel, and says whether that was lit. -/
def exec (d : Display) : Call → Option Bool × Display
  | .toggle x y =>
    let (lit, toggled) := d.toggleAll [(x, y)]
    (some lit, toggled)
  | .clear => (none, d.clear)

def after (d : Display) (c : Call) : Display := (d.exec c).2

def afterAll (d : Display) (calls : List Call) : Display := calls.foldl after d

/-! ## Pixels -/

theorem index_eq_iff_modEq (x y x' y' : Int) :
    index x y = index x' y' ↔ x ≡ x' [ZMOD 64] ∧ y ≡ y' [ZMOD 32] :=
  index_eq_iff x y x' y'

/-! ## Single calls -/

theorem exec_toggle (d : Display) (x y : Int) :
    d.exec (.toggle x y) = (some (d.get x y), d.toggle x y) := by
  simp only [exec, toggleAll, Bool.or_false]

theorem get_after_toggle (d : Display) (x y x' y' : Int) :
    (d.after (.toggle x' y')).get x y =
      (decide (Call.Touches x y (.toggle x' y')) ^^ d.get x y) := by
  rw [after, exec_toggle, get_toggle]
  congr 1
  exact decide_eq_decide.mpr (index_eq_iff_modEq x' y' x y)

theorem get_after_clear (d : Display) (x y : Int) : (d.after .clear).get x y = false :=
  d.get_clear x y

/-! ## Rows of calls -/

theorem afterAll_concat (d : Display) (calls : List Call) (c : Call) :
    d.afterAll (calls ++ [c]) = (d.afterAll calls).after c := List.foldl_concat ..

theorem toggles_concat_clear (calls : List Call) (x y : Int) :
    toggles (calls ++ [.clear]) x y = 0 := by
  rw [toggles, List.rtakeWhile_concat_neg _ _ _ (by simp), List.countP_nil]

theorem odd_toggles_concat (calls : List Call) (x y x' y' : Int) :
    decide (Odd (toggles (calls ++ [.toggle x' y']) x y)) =
      (decide (Call.Touches x y (.toggle x' y')) ^^ decide (Odd (toggles calls x y))) := by
  rw [toggles, List.rtakeWhile_concat_pos _ _ _ (by simp), List.countP_append,
    List.countP_singleton, ← toggles]
  by_cases touches : Call.Touches x y (.toggle x' y')
  · simp only [touches, decide_true, if_true, Nat.odd_add_one, decide_not, Bool.true_xor]
  · simp only [touches, decide_false, Bool.false_eq_true, if_false, Nat.add_zero, Bool.false_xor]

/-- An odd number of toggles since the last clear turns a pixel over. What it was from the start counts
    only as long as nothing is cleared. -/
theorem get_afterAll (d : Display) (calls : List Call) (x y : Int) :
    (d.afterAll calls).get x y =
      (decide (Odd (toggles calls x y)) ^^ (decide (.clear ∉ calls) && d.get x y)) := by
  -- The last call decides whether those before it still count.
  induction calls using List.reverseRecOn with
  | nil => simp [afterAll, toggles]
  | append_singleton calls c ih =>
    rw [afterAll_concat]
    cases c with
    | clear => simp [get_after_clear, toggles_concat_clear]
    | toggle x' y' =>
      rw [get_after_toggle, ih, odd_toggles_concat, Bool.xor_assoc]
      simp

/-- Whatever is toggled and cleared on a new display, anywhere in the plane: a pixel is lit exactly if
    it was toggled an odd number of times since the last clear, around a torus of 64 columns and 32
    rows. A toggle answers whether its pixel was lit. The numbers of the pixels are those below 2048,
    and two positions have the same one exactly if they are the same on the torus. -/
theorem torus_after_calls (calls : List Call) :
    let d := ({} : Display).afterAll calls
    (∀ x y, d.get x y = true ↔ Odd (toggles calls x y)) ∧
      (∀ x y, (d.exec (.toggle x y)).1 = some (d.get x y)) ∧
      (∀ x y, index x y < 2048) ∧
      (∀ x y x' y', index x y = index x' y' ↔ x ≡ x' [ZMOD 64] ∧ y ≡ y' [ZMOD 32]) ∧
      d.pixels.toList.length = 2048 := by
  intro d
  refine ⟨fun x y => ?_, fun x y => ?_, index_lt, index_eq_iff_modEq, d.pixels.length_toList⟩
  · have unlit : ({} : Display).get x y = false := get_clear {} x y
    rw [get_afterAll, unlit, Bool.and_false, Bool.xor_false, decide_eq_true_iff]
  · rw [exec_toggle]

/-- The last pixel, toggled twice since the clear under two names, and not by the toggle between them,
    which is around the corner. -/
example : (({} : Display).afterAll [.toggle 63 31, .clear, .toggle (-1) (-1), .toggle 64 31,
    .toggle 127 63]).get 63 31 = false := by
  decide +kernel

end ChipEight.Display
