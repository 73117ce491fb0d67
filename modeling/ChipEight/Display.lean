/-!
# The display

A picture of 64 by 32 pixels, each lit or not, on a torus: coordinates that leave the picture on one
side come in on the other. Pixels are numbered row by row.
-/

namespace ChipEight

namespace Display

def width : Nat := 64

def height : Nat := 32

end Display

/-- The pixels, row by row from the top left. -/
structure Display where
  pixels : Vector Bool (Display.width * Display.height) := Vector.replicate _ false
  deriving DecidableEq

namespace Display

/-- The number of the pixel at column `x` and row `y`, both taken around the torus. -/
def index (x y : Int) : Nat :=
  (y % height).toNat * width + (x % width).toNat

theorem index_lt (x y : Int) : index x y < width * height := by
  simp only [index, width, height]
  omega

theorem index_eq_iff (x y x' y' : Int) :
    index x y = index x' y' ↔ x % width = x' % width ∧ y % height = y' % height := by
  simp only [index, width, height]
  omega

/-- The number of a pixel, as a place in the picture. -/
def place (x y : Int) : Fin (width * height) := ⟨index x y, index_lt x y⟩

def clear (_ : Display) : Display := {}

def get (d : Display) (x y : Int) : Bool :=
  d.pixels[place x y]

def toggle (d : Display) (x y : Int) : Display :=
  ⟨d.pixels.set (index x y) (!d.get x y) (index_lt x y)⟩

theorem get_clear (d : Display) (x y : Int) : d.clear.get x y = false := by
  simp [clear, get]

theorem get_toggle (d : Display) (x y x' y' : Int) :
    (d.toggle x y).get x' y' = (decide (index x y = index x' y') ^^ d.get x' y') := by
  by_cases h : index x y = index x' y'
  · simp [toggle, get, place, h]
  · simp [toggle, get, place, h, Vector.getElem_set_ne]

def lit (d : Display) : List Nat :=
  (List.range (width * height)).filter fun i => d.pixels[i]? = some true

/-! ## Sprites -/

/-- The columns that the set bits of a sprite row cover, the leftmost being the highest bit. -/
def columns (bits : UInt8) : List Nat :=
  (List.range 8).filter fun column => bits.toNat.testBit (7 - column)

/-- The pixels under the set bits of a sprite whose top left corner is at `x`, `y`: row by row, each
    row from the left. -/
def spritePixels (x y : Int) (rows : List UInt8) : List (Int × Int) :=
  (rows.zipIdx).flatMap fun (bits, row) => (columns bits).map fun (column : Nat) => (x + column, y + row)

/-- Toggles the pixels of a list in order, and says whether one of them was lit when its turn
    came. -/
def toggleAll (d : Display) : List (Int × Int) → Bool × Display
  | [] => (false, d)
  | (x, y) :: rest =>
    let (collision, drawn) := (d.toggle x y).toggleAll rest
    (d.get x y || collision, drawn)

/-- Draws a sprite at `x`, `y`, and says whether it turned a lit pixel off. -/
def draw (d : Display) (x y : Int) (rows : List UInt8) : Bool × Display :=
  d.toggleAll (spritePixels x y rows)

end Display

end ChipEight
