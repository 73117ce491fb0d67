import ChipEight.Display
import Mathlib

/-!
# Drawing

A sprite is drawn pixel by pixel, and each toggle sees what the earlier ones have left. That makes
no difference: a sprite is no wider and no higher than the display, so its bits lie over distinct
pixels, and the whole of it is toggled at once (`get_draw`). In the same way the collision is an
overlap with the picture that was there before (`draw_fst`). So a draw undoes itself (`draw_draw`),
and the order of two draws makes no difference (`draw_comm`).
-/

namespace ChipEight.Display

/-! ## Lists of pixels -/

theorem get_congr (d : Display) {x y x' y' : Int} (same : index x y = index x' y') :
    d.get x y = d.get x' y' := by
  simp only [get, show place x y = place x' y' from Fin.ext same]

/-- Whether no two pixels of a list are the same one. -/
def Distinct (pixels : List (Int × Int)) : Prop :=
  pixels.Pairwise fun p q => index p.1 p.2 ≠ index q.1 q.2

theorem not_mem_of_distinct {p : Int × Int} {pixels : List (Int × Int)}
    (distinct : Distinct (p :: pixels)) (x y : Int) (here : index p.1 p.2 = index x y) :
    (pixels.any fun q => index q.1 q.2 = index x y) = false := by
  obtain ⟨apart, _⟩ := List.pairwise_cons.mp distinct
  rw [List.any_eq_false]
  intro q mem again
  exact apart q mem (here.trans (of_decide_eq_true again).symm)

/-- Distinct pixels are toggled at once. -/
theorem get_toggleAll (d : Display) (pixels : List (Int × Int)) (distinct : Distinct pixels)
    (x y : Int) :
    (d.toggleAll pixels).2.get x y =
      ((pixels.any fun p => index p.1 p.2 = index x y) ^^ d.get x y) := by
  induction pixels generalizing d with
  | nil => simp [toggleAll]
  | cons p pixels ih =>
    obtain ⟨_, rest⟩ := List.pairwise_cons.mp distinct
    change ((d.toggle p.1 p.2).toggleAll pixels).2.get x y = _
    rw [ih _ rest, get_toggle, List.any_cons]
    by_cases here : index p.1 p.2 = index x y
    · rw [not_mem_of_distinct distinct x y here]
      simp [here]
    · simp [here]

/-- Of distinct pixels one was lit when its turn came exactly if one was lit from the start. -/
theorem toggleAll_fst (d : Display) (pixels : List (Int × Int)) (distinct : Distinct pixels) :
    (d.toggleAll pixels).1 = pixels.any fun p => d.get p.1 p.2 := by
  induction pixels generalizing d with
  | nil => rfl
  | cons p pixels ih =>
    obtain ⟨apart, rest⟩ := List.pairwise_cons.mp distinct
    change (d.get p.1 p.2 || ((d.toggle p.1 p.2).toggleAll pixels).1) = _
    rw [ih _ rest, List.any_cons]
    congr 1
    -- The toggle of the first pixel is not seen at the others.
    rw [Bool.eq_iff_iff, List.any_eq_true, List.any_eq_true]
    refine exists_congr fun q => and_congr_right fun mem => ?_
    rw [get_toggle, decide_eq_false (apart q mem), Bool.false_xor]

/-! ## Sprites -/

/-- Whether the sprite byte of row `row`, if there is one, has its bit of column `column` set. The
    highest bit is that of column 0. -/
def hasBit (rows : List UInt8) (row column : Nat) : Bool :=
  rows[row]?.any fun bits => bits.toNat.testBit (7 - column)

/-- Whether a set bit of a sprite whose top left corner is at `x`, `y` lies over a pixel. -/
def Covers (x y : Int) (rows : List UInt8) (px py : Int) : Prop :=
  ∃ row < rows.length, ∃ column < 8, hasBit rows row column ∧
    px % width = (x + column) % width ∧ py % height = (y + row) % height

instance (x y : Int) (rows : List UInt8) (px py : Int) : Decidable (Covers x y rows px py) := by
  unfold Covers
  infer_instance

theorem mem_columns {bits : UInt8} {column : Nat} :
    column ∈ columns bits ↔ column < 8 ∧ bits.toNat.testBit (7 - column) := by
  rw [columns, List.mem_filter, List.mem_range]

theorem mem_spritePixels {x y : Int} {rows : List UInt8} {p : Int × Int} :
    p ∈ spritePixels x y rows ↔
      ∃ row < rows.length, ∃ column < 8, hasBit rows row column ∧ p = (x + column, y + row) := by
  rw [spritePixels, List.mem_flatMap]
  constructor
  · rintro ⟨⟨bits, row⟩, isRow, mem⟩
    have isRow := List.mk_mem_zipIdx_iff_getElem?.mp isRow
    obtain ⟨column, isColumn, rfl⟩ := List.mem_map.mp mem
    obtain ⟨narrow, set⟩ := mem_columns.mp isColumn
    obtain ⟨inside, _⟩ := List.getElem?_eq_some_iff.mp isRow
    refine ⟨row, inside, column, narrow, ?_, rfl⟩
    rw [hasBit, isRow]
    exact set
  · rintro ⟨row, inside, column, narrow, set, rfl⟩
    rw [hasBit, List.getElem?_eq_getElem inside] at set
    refine ⟨(rows[row], row), ?_, List.mem_map.mpr ⟨column, mem_columns.mpr ⟨narrow, set⟩, rfl⟩⟩
    exact List.mk_mem_zipIdx_iff_getElem?.mpr (List.getElem?_eq_getElem inside)

/-- No two columns of a row are the same, since a row is no wider than the display. -/
theorem distinct_row (x y : Int) (bits : UInt8) :
    Distinct ((columns bits).map fun (column : Nat) => (x + column, y)) := by
  rw [Distinct, List.pairwise_map]
  have increasing : (columns bits).Pairwise (· < ·) := List.pairwise_lt_range.filter _
  refine increasing.imp_of_mem ?_
  intro first second isFirst isSecond less same
  have narrow := (mem_columns.mp isSecond).1
  obtain ⟨sameColumn, _⟩ := (index_eq_iff _ _ _ _).mp same
  simp only [width] at sameColumn
  omega

theorem distinct_spritePixels (x y : Int) (rows : List UInt8) (low : rows.length ≤ height) :
    Distinct (spritePixels x y rows) := by
  rw [Distinct, spritePixels, List.pairwise_flatMap]
  refine ⟨fun row _ => distinct_row x (y + row.2) row.1, ?_⟩
  have increasing : rows.zipIdx.Pairwise fun first second => first.2 < second.2 := by
    have indices : (rows.zipIdx.map Prod.snd).Pairwise (· < ·) := by
      rw [List.zipIdx_map_snd]
      exact List.pairwise_lt_range'
    exact List.pairwise_map.mp indices
  refine increasing.imp_of_mem ?_
  rintro ⟨_, first⟩ ⟨_, second⟩ _ isSecond less p isPixel q isOther same
  -- The rows of a sprite are no more than those of the display.
  obtain ⟨inside, _⟩ := List.getElem?_eq_some_iff.mp (List.mk_mem_zipIdx_iff_getElem?.mp isSecond)
  obtain ⟨_, _, rfl⟩ := List.mem_map.mp isPixel
  obtain ⟨_, _, rfl⟩ := List.mem_map.mp isOther
  obtain ⟨_, sameRow⟩ := (index_eq_iff _ _ _ _).mp same
  simp only [height] at sameRow low
  omega

theorem covers_iff (x y : Int) (rows : List UInt8) (px py : Int) :
    Covers x y rows px py ↔ ∃ p ∈ spritePixels x y rows, index p.1 p.2 = index px py := by
  constructor
  · rintro ⟨row, inside, column, narrow, set, sameColumn, sameRow⟩
    exact ⟨_, mem_spritePixels.mpr ⟨row, inside, column, narrow, set, rfl⟩,
      (index_eq_iff _ _ _ _).mpr ⟨sameColumn.symm, sameRow.symm⟩⟩
  · rintro ⟨p, mem, same⟩
    obtain ⟨row, inside, column, narrow, set, rfl⟩ := mem_spritePixels.mp mem
    obtain ⟨sameColumn, sameRow⟩ := (index_eq_iff _ _ _ _).mp same
    exact ⟨row, inside, column, narrow, set, sameColumn.symm, sameRow.symm⟩

/-- A sprite is drawn by toggling all pixels under its set bits at once. -/
theorem get_draw (d : Display) (x y : Int) (rows : List UInt8) (low : rows.length ≤ height)
    (px py : Int) :
    (d.draw x y rows).2.get px py = (d.get px py ^^ decide (Covers x y rows px py)) := by
  rw [draw, get_toggleAll d _ (distinct_spritePixels x y rows low), Bool.xor_comm]
  congr 1
  rw [Bool.eq_iff_iff, List.any_eq_true, decide_eq_true_iff, covers_iff]
  simp only [decide_eq_true_eq]

/-- Drawing collides if a set bit of the sprite lies over a pixel that is lit. -/
theorem draw_fst (d : Display) (x y : Int) (rows : List UInt8) (low : rows.length ≤ height) :
    (d.draw x y rows).1 = true ↔ ∃ px py, d.get px py = true ∧ Covers x y rows px py := by
  rw [draw, toggleAll_fst d _ (distinct_spritePixels x y rows low), List.any_eq_true]
  constructor
  · rintro ⟨p, mem, lit⟩
    exact ⟨p.1, p.2, lit, (covers_iff _ _ _ _ _).mpr ⟨p, mem, rfl⟩⟩
  · rintro ⟨px, py, lit, covered⟩
    obtain ⟨p, mem, same⟩ := (covers_iff _ _ _ _ _).mp covered
    exact ⟨p, mem, by rw [d.get_congr same, lit]⟩

/-! ## Redrawing -/

theorem place_mod_div (i : Fin (width * height)) :
    place ((i.val % width : Nat) : Int) ((i.val / width : Nat) : Int) = i := by
  have inside := i.isLt
  refine Fin.ext ?_
  simp only [place, index, width, height] at inside ⊢
  omega

theorem ext_get {d d' : Display} (same : ∀ x y, d.get x y = d'.get x y) : d = d' := by
  obtain ⟨pixels⟩ := d
  obtain ⟨pixels'⟩ := d'
  rw [Display.mk.injEq]
  refine Vector.ext fun i inside => ?_
  have same := same ((i % width : Nat) : Int) ((i / width : Nat) : Int)
  simp only [get, place_mod_div ⟨i, inside⟩] at same
  exact same

/-- A position counts only as far as it is one on the torus. -/
theorem covers_congr {x y x' y' : Int} (rows : List UInt8) (across : x % width = x' % width)
    (down : y % height = y' % height) (px py : Int) :
    Covers x y rows px py ↔ Covers x' y' rows px py := by
  unfold Covers
  refine exists_congr fun row => and_congr_right fun _ => exists_congr fun column =>
    and_congr_right fun _ => and_congr_right fun _ => and_congr ?_ ?_
  · rw [Int.add_emod x, across, ← Int.add_emod]
  · rw [Int.add_emod y, down, ← Int.add_emod]

theorem draw_congr (d : Display) {x y x' y' : Int} (rows : List UInt8)
    (low : rows.length ≤ height) (across : x % width = x' % width)
    (down : y % height = y' % height) :
    d.draw x y rows = d.draw x' y' rows := by
  refine Prod.ext ?_ (ext_get fun px py => ?_)
  · rw [Bool.eq_iff_iff, draw_fst d x y rows low, draw_fst d x' y' rows low]
    simp only [covers_congr rows across down]
  · rw [get_draw d x y rows low, get_draw d x' y' rows low]
    simp only [covers_congr rows across down]

/-- Drawing a sprite where it has just been drawn erases it. -/
theorem draw_draw (d : Display) (x y : Int) (rows : List UInt8) (low : rows.length ≤ height) :
    ((d.draw x y rows).2.draw x y rows).2 = d := by
  refine ext_get fun px py => ?_
  rw [get_draw _ x y rows low, get_draw d x y rows low, Bool.xor_assoc, Bool.xor_self,
    Bool.xor_false]

/-- The second draw collides with what the first one has lit. -/
theorem draw_draw_fst (d : Display) (x y : Int) (rows : List UInt8) (low : rows.length ≤ height) :
    ((d.draw x y rows).2.draw x y rows).1 = true ↔
      ∃ px py, d.get px py = false ∧ Covers x y rows px py := by
  rw [draw_fst _ x y rows low]
  refine exists_congr fun px => exists_congr fun py => and_congr_left fun covered => ?_
  rw [get_draw d x y rows low, decide_eq_true covered, Bool.xor_true, Bool.not_eq_true']

theorem draw_comm (d : Display) (x y x' y' : Int) (rows rows' : List UInt8)
    (low : rows.length ≤ height) (low' : rows'.length ≤ height) :
    ((d.draw x y rows).2.draw x' y' rows').2 = ((d.draw x' y' rows').2.draw x y rows).2 := by
  refine ext_get fun px py => ?_
  rw [get_draw _ x' y' rows' low', get_draw d x y rows low, get_draw _ x y rows low,
    get_draw d x' y' rows' low', Bool.xor_right_comm]

end ChipEight.Display
