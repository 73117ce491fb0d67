import ChipEight.Host.Canvas

/-!
# What a window shows

Painting the fills of a display shows that display, at any scale and whatever was in the window
before (`colour_paintAll`). A host paints just these fills as long as the edges of the window are
coordinates (`draw_eq_paintAll`), and it has a window of the right size up to a scale of 256
(`ofSettings_eq_ok_iff`).
-/

namespace ChipEight.Host

/-- A pixel is among the lit ones exactly if it is lit. -/
theorem mem_lit (d : Display) {column row : Nat} (inRow : column < Display.width)
    (inColumn : row < Display.height) :
    row * Display.width + column ∈ d.lit ↔ d.get column row := by
  have place : Display.index column row = row * Display.width + column := by
    simp only [Display.index, Display.width, Display.height] at *
    omega
  have bound : row * Display.width + column < Display.width * Display.height :=
    place ▸ Display.index_lt column row
  simp [Display.lit, Display.get, Display.place, place, bound]

/-! ## Painting -/

namespace Canvas

/-- Whether a canvas shows a display: each of its pixels as a square, in the colours that are
    set. -/
structure Shows (settings : Settings) (c : Canvas) (d : Display) : Prop where
  width : c.width = Display.width * settings.scale
  height : c.height = Display.height * settings.scale
  colour : ∀ x < Display.width * settings.scale, ∀ y < Display.height * settings.scale,
    c.colour x y = if d.get ↑(x / settings.scale) ↑(y / settings.scale) then settings.foreground
      else settings.background

@[simp] theorem width_paint (c : Canvas) (f : Fill) : (c.paint f).width = c.width := by
  cases f <;> rfl

@[simp] theorem height_paint (c : Canvas) (f : Fill) : (c.paint f).height = c.height := by
  cases f <;> rfl

theorem size_paintAll (c : Canvas) (fills : List Fill) :
    (fills.foldl paint c).width = c.width ∧ (fills.foldl paint c).height = c.height := by
  induction fills generalizing c with
  | nil => exact ⟨rfl, rfl⟩
  | cons f fills ih => simpa using ih (c.paint f)

/-- The square in which a window shows a pixel of the display. -/
def square (settings : Settings) (i : Nat) : Fill :=
  .square (i % Display.width * settings.scale) (i / Display.width * settings.scale) settings.scale
    settings.foreground

theorem ofDisplay_eq (settings : Settings) (d : Display) :
    Fill.ofDisplay settings d =
      .window settings.background :: d.lit.map (square settings) := by
  unfold Fill.ofDisplay square
  rfl

theorem colour_paint_square (settings : Settings) (positive : 0 < settings.scale) (c : Canvas)
    (i x y : Nat) :
    (c.paint (square settings i)).colour x y =
      if x / settings.scale = i % Display.width ∧ y / settings.scale = i / Display.width then
        settings.foreground
      else c.colour x y := by
  have inside (place n : Nat) : place / settings.scale = n ↔
      n * settings.scale ≤ place ∧ place < n * settings.scale + settings.scale := by
    rw [Nat.div_eq_iff positive]
    omega
  simp only [square, paint, inside, and_assoc]

theorem colour_paint_squares (settings : Settings) (positive : 0 < settings.scale)
    (pixels : List Nat) (c : Canvas) (x y : Nat) :
    ((pixels.map (square settings)).foldl paint c).colour x y =
      if ∃ i ∈ pixels, x / settings.scale = i % Display.width ∧
          y / settings.scale = i / Display.width
      then settings.foreground
      else c.colour x y := by
  induction pixels generalizing c with
  | nil => simp
  | cons i pixels ih =>
    rw [List.map_cons, List.foldl_cons, ih, colour_paint_square settings positive]
    by_cases later : ∃ i ∈ pixels, x / settings.scale = i % Display.width ∧
        y / settings.scale = i / Display.width
    · simp [later]
    · simp [later]

/-- Once the fills of a display are painted, each pixel of the window has the colour of the pixel of
    the display that it belongs to, whatever was in the window before. -/
theorem colour_paintAll (settings : Settings) (positive : 0 < settings.scale) (c : Canvas)
    (d : Display) {x y : Nat} (inWidth : x < Display.width * settings.scale)
    (inHeight : y < Display.height * settings.scale) :
    ((Fill.ofDisplay settings d).foldl paint c).colour x y =
      if d.get ↑(x / settings.scale) ↑(y / settings.scale) then settings.foreground
      else settings.background := by
  have column : x / settings.scale < Display.width := Nat.div_lt_of_lt_mul (by rwa [Nat.mul_comm])
  have row : y / settings.scale < Display.height := Nat.div_lt_of_lt_mul (by rwa [Nat.mul_comm])
  have lit : (∃ i ∈ d.lit, x / settings.scale = i % Display.width ∧
      y / settings.scale = i / Display.width) ↔
        d.get ↑(x / settings.scale) ↑(y / settings.scale) := by
    rw [← mem_lit d column row]
    constructor
    · rintro ⟨i, mem, inRow, inColumn⟩
      rwa [inRow, inColumn, Nat.div_add_mod']
    · refine fun mem => ⟨_, mem, ?_, ?_⟩
      · rw [Nat.mul_add_mod', Nat.mod_eq_of_lt column]
      · rw [Nat.mul_comm, Nat.mul_add_div (by decide : 0 < Display.width), Nat.div_eq_of_lt column,
          Nat.add_zero]
  have drawn := colour_paint_squares settings positive d.lit (c.paint (.window settings.background))
    x y
  simp only [lit] at drawn
  rw [ofDisplay_eq, List.foldl_cons, drawn]
  rfl

/-- A host paints the fills of a display as they are if the edges of the window are coordinates. -/
theorem draw_eq_paintAll (settings : Settings) (positive : 0 < settings.scale)
    (fits : Display.width * settings.scale < 0x80000000) (c : Canvas) (d : Display) :
    c.draw settings d = (Fill.ofDisplay settings d).foldl paint c := by
  have same : (Fill.ofDisplay settings d).map Fill.onHost = Fill.ofDisplay settings d := by
    rw [ofDisplay_eq, List.map_cons, List.map_map]
    refine congrArg _ (List.map_congr_left fun i mem => ?_)
    have bound : i < Display.width * Display.height := List.mem_range.mp (List.mem_filter.mp mem).1
    have column : i % Display.width < Display.width := Nat.mod_lt _ (by decide)
    have row : i / Display.width < Display.height := Nat.div_lt_of_lt_mul bound
    have flat : Display.height ≤ Display.width := by decide
    -- Behind a square there are no more pixels than the window is wide.
    have behind {place : Nat} (inside : place < Display.width) :
        place * settings.scale + settings.scale < 0x80000000 := by
      rw [← Nat.succ_mul]
      exact Nat.lt_of_le_of_lt (Nat.mul_le_mul_right _ inside) fits
    rw [Function.comp_apply, square,
      Fill.onHost_square positive (behind column) (behind (Nat.lt_of_lt_of_le row flat))]
  rw [draw, ← List.foldl_map, same]

/-- At every scale the fills of a display leave each pixel of the window in the foreground colour if
    it belongs to a lit pixel of the display, and in the background colour if it does not. Nothing is
    left of what was in the window before, and its size stays as it is. A host whose coordinates go
    as far as the window draws the same picture. -/
theorem window_shows_display (settings : Settings) (positive : 0 < settings.scale)
    (before : Canvas) (d : Display) :
    let after := (Fill.ofDisplay settings d).foldl paint before
    (∀ x < Display.width * settings.scale, ∀ y < Display.height * settings.scale,
        after.colour x y = if d.get ↑(x / settings.scale) ↑(y / settings.scale) then
          settings.foreground else settings.background) ∧
      (after.width = before.width ∧ after.height = before.height) ∧
      (Display.width * settings.scale < 0x80000000 → before.draw settings d = after) :=
  ⟨fun _ inWidth _ inHeight => colour_paintAll settings positive before d inWidth inHeight,
    size_paintAll before _, fun fits => draw_eq_paintAll settings positive fits before d⟩

/-- The lower right pixel, drawn three by three over a window full of another colour. -/
theorem window_shows_display_corner :
    let settings : Settings := { scale := 3 }
    let before : Canvas := ⟨192, 96, fun _ _ => ⟨1, 2, 3⟩⟩
    let after := before.draw settings (Display.toggle {} 63 31)
    0 < settings.scale ∧ Display.width * settings.scale < 0x80000000 ∧
      after.colour 191 95 = ⟨255, 255, 255⟩ ∧ after.colour 188 95 = ⟨0, 0, 0⟩ ∧
        after.width = 192 := by
  intro settings before after
  have positive : 0 < settings.scale := by decide
  have fits : Display.width * settings.scale < 0x80000000 := by decide
  obtain ⟨colour, ⟨width, -⟩, onHost⟩ :=
    window_shows_display settings positive before (Display.toggle {} 63 31)
  have same : after = _ := onHost fits
  have unlit (x y : Int) : ({} : Display).get x y = false := Display.get_clear {} x y
  refine ⟨positive, fits, ?_, ?_, by rw [same, width]⟩
  · rw [same, colour 191 (by decide) 95 (by decide), Display.get_toggle, unlit]
    exact if_pos (by decide)
  · rw [same, colour 188 (by decide) 95 (by decide), Display.get_toggle, unlit]
    exact if_neg (by decide)

end Canvas

end ChipEight.Host
