import ChipEight.Display
import ChipEight.Settings

/-!
# The window

A window shows the display: each of its pixels as a square of `scale` by `scale` window pixels, in
the foreground colour if it is lit, on a ground of the background colour. `Fill.ofDisplay` says what
has to be painted for that, at any scale, and `Canvas.paint` paints it. A host paints with numbers
of thirty-two bits; `Fill.onHost` says what it makes of larger ones, and `Fill.onHost_square` that
it leaves all others alone.
-/

namespace ChipEight.Host

/-- Sides and positions on a host have thirty-two bits and a sign; of a larger number the low bits
    count. -/
def coordinate (n : Nat) : Int :=
  Int.bmod n 0x100000000

theorem coordinate_eq {n : Nat} (h : n < 0x80000000) : coordinate n = n :=
  Int.bmod_eq_of_le (by omega) (by omega)

/-! ## Fills -/

inductive Fill
  | window (colour : Colour)
  | square (left top side : Nat) (colour : Colour)
  deriving DecidableEq, Repr

namespace Fill

/-- What has to be painted, one after another, to show a display. -/
def ofDisplay (settings : Settings) (d : Display) : List Fill :=
  .window settings.background :: d.lit.map fun i =>
    .square (i % Display.width * settings.scale) (i / Display.width * settings.scale) settings.scale settings.foreground

def onHost : Fill → Fill
  | .window colour => .window colour
  | .square left top side colour =>
    -- A square that begins before the left or the upper edge is moved to that edge, unless it also
    -- ends before it.
    if 0 < coordinate left + coordinate side ∧ 0 < coordinate top + coordinate side then
      .square (coordinate left).toNat (coordinate top).toNat (coordinate side).toNat colour
    else .square 0 0 0 colour

/-- A host paints a square as it is if its edges are coordinates. -/
theorem onHost_square {left top side : Nat} {colour : Colour} (positive : 0 < side)
    (fitsLeft : left + side < 0x80000000) (fitsTop : top + side < 0x80000000) :
    onHost (.square left top side colour) = .square left top side colour := by
  rw [onHost, coordinate_eq (n := left) (by omega), coordinate_eq (n := top) (by omega),
    coordinate_eq (n := side) (by omega), if_pos (by omega), Int.toNat_natCast, Int.toNat_natCast, Int.toNat_natCast]

end Fill

/-! ## Canvases -/

/-- The picture in a window, by column and row. -/
structure Canvas where
  width : Nat
  height : Nat
  colour : Nat → Nat → Colour

namespace Canvas

def blank (width height : Nat) : Canvas :=
  ⟨width, height, fun _ _ => ⟨0, 0, 0⟩⟩

def paint (c : Canvas) : Fill → Canvas
  | .window colour => { c with colour := fun _ _ => colour }
  | .square left top side colour => { c with colour := fun x y =>
      if left ≤ x ∧ x < left + side ∧ top ≤ y ∧ y < top + side then colour else c.colour x y }

/-- The most pixels in a row or a column of a window. -/
def maxSide : Nat := 0x4000

def desktop : Canvas := blank 1024 768

inductive SizeError
  /-- Not all sides fit into sixty-four bits. -/
  | notNumbers
  /-- As a coordinate, a side is negative. -/
  | negative
  | tooLarge
  deriving DecidableEq, Repr

def SizeError.message : SizeError → String
  | .notNumbers => "size must be two numbers"
  | .negative => "Cannot set negative sized display mode"
  | .tooLarge => "Window is too large."

def ofSize (width height : Nat) : Except SizeError Canvas :=
  let sides := [width, height]
  let coordinates := sides.map coordinate
  if sides.any (0x8000000000000000 ≤ ·) then .error .notNumbers
  else if coordinates.any (· < 0) then .error .negative
  -- A window of no size takes the whole desktop.
  else if coordinates.all (· = 0) then .ok desktop
  else if coordinates.any (maxSide < ·) then .error .tooLarge
  else .ok (blank (coordinate width).toNat (coordinate height).toNat)

def ofSettings (settings : Settings) : Except SizeError Canvas :=
  ofSize (Display.width * settings.scale) (Display.height * settings.scale)

def draw (settings : Settings) (d : Display) (c : Canvas) : Canvas :=
  (Fill.ofDisplay settings d).foldl (fun c f => c.paint f.onHost) c

end Canvas

end ChipEight.Host
