import ChipEight.Proofs.Display
import ChipEight.Proofs.Machine.Invariant

/-!
# The draw instruction

What a machine's sprite is and where it lies, and that drawing it xors the display with it and does
nothing else (`execute_draw`). The registers are read before the flag is written, so the flag
register can be one of those that hold the position.
-/

namespace ChipEight.Machine

/-- Whether the sprite of `rows` bytes that the index register points at has a set bit over a pixel
    when it is drawn at the position in registers `x` and `y`. -/
def SpriteCovers (m : Machine) (x y : Register) (rows : Nibble) (px py : Int) : Prop :=
  ∃ row < rows.val, ∃ column : Nat, column < 8 ∧
    (m.memory.bytes[m.index.toNat + row]?.any fun bits => bits.toNat.testBit (7 - column)) ∧
      px % 64 = ((m.register x).toNat + column) % 64 ∧ py % 32 = ((m.register y).toNat + row) % 32

instance (m : Machine) (x y : Register) (rows : Nibble) (px py : Int) :
    Decidable (m.SpriteCovers x y rows px py) := by
  unfold SpriteCovers
  infer_instance

/-- The sprite is the block of memory that is read. -/
theorem covers_iff_spriteCovers {m : Machine} {x y : Register} {rows : Nibble}
    {sprite : List UInt8} (read : m.memory.readBlock m.index rows.val = .ok sprite) (px py : Int) :
    Display.Covers (m.register x).toNat (m.register y).toNat sprite px py ↔
      m.SpriteCovers x y rows px py := by
  obtain ⟨_, _, block⟩ := (m.memory.readBlock_eq_ok_iff m.index rows.val sprite).mp read
  unfold Display.Covers SpriteCovers
  rw [Memory.length_of_readBlock read]
  refine exists_congr fun row => and_congr_right fun inside => exists_congr fun column =>
    and_congr_right fun _ => and_congr_left' ?_
  rw [Display.hasBit, block, List.getElem?_take_of_lt inside, List.getElem?_drop,
    Array.getElem?_toList]

/-- A draw whose sprite lies in memory succeeds. It xors every pixel of the display with the sprite
    and leaves in the flag register whether the sprite overlapped with what was lit before. Nothing
    else changes but the program counter. -/
theorem execute_draw (m : Machine) (h : m.Invariant) (x y : Register) (rows : Nibble)
    (fits : m.index + rows.val ≤ 0x1000) :
    ∃ (collision : Bool) (display : Display),
      execute (Instruction.word (.draw x y rows)) m =
          .ok .next { m.setRegister .flag (if collision then 1 else 0) with
            display, pc := (m.pc + 2) % 0x10000 } ∧
        (∀ px py, display.get px py =
          (m.display.get px py ^^ decide (m.SpriteCovers x y rows px py))) ∧
        (collision = true ↔
          ∃ px py, m.display.get px py = true ∧ m.SpriteCovers x y rows px py) := by
  have size : (m.memory.size : Int) = 0x1000 := by rw [h.memory]; rfl
  obtain ⟨sprite, read⟩ : ∃ sprite, m.memory.readBlock m.index rows.val = .ok sprite :=
    ⟨_, (m.memory.readBlock_eq_ok_iff m.index rows.val _).mpr ⟨h.index.1, by omega, rfl⟩⟩
  have low : sprite.length ≤ Display.height := by
    rw [Memory.length_of_readBlock read, Display.height]
    omega
  let drawn := m.display.draw (m.register x).toNat (m.register y).toNat sprite
  refine ⟨drawn.1, drawn.2, ?_, fun px py => ?_, ?_⟩
  · rw [execute_word (.draw x y rows) id, performAndAdvance_apply, perform, performDraw_apply, read]
    rfl
  · rw [Display.get_draw _ _ _ sprite low]
    simp only [covers_iff_spriteCovers read]
  · rw [Display.draw_fst _ _ _ sprite low]
    simp only [covers_iff_spriteCovers read]

/-- The top of the digit 0, drawn around the corner of the display from the position in registers F
    and 1, with its third column over the one pixel that is lit. -/
theorem execute_draw_corner :
    let m : Machine :=
      { random := .ofList [1], display := Display.toggle {} 0 31,
        registers := #v[0, 31, 0, 0, 0, 0, 0, 0, 0, 0, 0, 0, 0, 0, 0, 62] }
    m.Invariant ∧ m.index + (2 : Nibble).val ≤ 0x1000 ∧
      ∃ display,
        execute 0xDF12 m = .ok .next { m.setRegister .flag 1 with display, pc := 0x202 } ∧
          display.get 63 31 = true ∧ display.get 0 31 = false ∧ display.get 1 0 = true := by
  intro m
  have new : Invariant { random := .ofList [1] } := invariant_new (Nat.succ_pos 0)
  have h : m.Invariant :=
    ⟨new.index, new.pc, new.slots, new.delay, new.sound, new.memory, new.random⟩
  have fits : m.index + (2 : Nibble).val ≤ 0x1000 := by decide
  obtain ⟨collision, display, drawn, pixels, collides⟩ := execute_draw m h .flag 1 2 fits
  have covers (row column : Nat) (px py : Int) (inside : row < 2) (narrow : column < 8)
      (set : Font.glyphs[row]?.any fun bits => bits.toNat.testBit (7 - column))
      (across : px % 64 = (62 + column) % 64) (down : py % 32 = (31 + row) % 32) :
      m.SpriteCovers .flag 1 2 px py := by
    refine ⟨row, inside, column, narrow, ?_, across, down⟩
    have glyph : row < Font.glyphs.length := by
      rw [Font.length_glyphs, Font.glyphSize]
      omega
    rw [← Memory.getElem?_ofSize Memory.capacity row glyph] at set
    exact (Nat.zero_add row).symm ▸ set
  have lit (x y : Int) : m.display.get x y = decide (Display.index 0 31 = Display.index x y) := by
    rw [Display.get_toggle, show Display.get {} x y = false from Display.get_clear {} x y,
      Bool.xor_false]
  -- The third column comes in again on the left.
  have overlap := covers 0 2 0 31 (by decide) (by decide) (by decide) rfl rfl
  obtain rfl : collision = true := collides.mpr ⟨0, 31, by rw [lit]; decide, overlap⟩
  refine ⟨h, fits, display, drawn, ?_, ?_, ?_⟩
  · rw [pixels, lit, decide_eq_true (covers 0 1 63 31 (by decide) (by decide) (by decide) rfl rfl)]
    decide
  · rw [pixels, lit, decide_eq_true overlap]
    decide
  · rw [pixels, lit, decide_eq_true (covers 1 3 1 0 (by decide) (by decide) (by decide) rfl rfl)]
    decide

end ChipEight.Machine
