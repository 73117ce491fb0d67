import ChipEight.Proofs.Machine.Drawing
import ChipEight.Proofs.Machine.Registers

/-!
# Drawing again

A program erases a sprite by drawing it once more, and draws several sprites in any order. What a
draw comes to is the machine with its display drawn on and its flag register set (`drawAt`), so what
holds of displays (`Display.draw_draw`, `Display.draw_comm`, `Display.draw_congr`) holds of machines
whose positions are not in the flag register, which each draw writes (`execute_draws`).
-/

namespace ChipEight.Machine

/-- The machine after it has drawn a sprite at a position. -/
def drawAt (m : Machine) (px py : Nat) (sprite : List UInt8) : Machine :=
  let (collision, display) := m.display.draw px py sprite
  { m.setRegister .flag (if collision then 1 else 0) with display, pc := (m.pc + 2) % 0x10000 }

/-! ## Machines that have drawn -/

section

variable (m : Machine) (px py : Nat) (sprite : List UInt8)

theorem register_drawAt {r : Register} (plain : r ≠ .flag) :
    (m.drawAt px py sprite).register r = m.register r :=
  register_setRegister_of_ne m _ plain

theorem register_flag_drawAt :
    (m.drawAt px py sprite).register .flag =
      if (m.display.draw px py sprite).1 then 1 else 0 :=
  register_setRegister_self m _ _

theorem drawAt_setRegister {r : Register} (value : UInt8) (plain : r ≠ .flag) :
    (m.setRegister r value).drawAt px py sprite = (m.drawAt px py sprite).setRegister r value := by
  have swapped := m.setRegister_comm value
    (if (m.display.draw px py sprite).1 then 1 else 0) plain
  exact congrArg (fun m' : Machine =>
    { m' with display := (m.display.draw px py sprite).2, pc := (m.pc + 2) % 0x10000 }) swapped

theorem drawAt_congr {px' py' : Nat} (low : sprite.length ≤ Display.height)
    (across : px' % 64 = px % 64) (down : py' % 32 = py % 32) :
    m.drawAt px' py' sprite = m.drawAt px py sprite := by
  have same : m.display.draw px' py' sprite = m.display.draw px py sprite :=
    m.display.draw_congr sprite low (by simp only [Display.width]; omega)
      (by simp only [Display.height]; omega)
  rw [drawAt, drawAt, same]

/-- Only the flag tells which of two draws came last. -/
theorem drawAt_comm (px' py' : Nat) {sprite' : List UInt8} (low : sprite.length ≤ Display.height)
    (low' : sprite'.length ≤ Display.height) :
    ∃ value, (m.drawAt px' py' sprite').drawAt px py sprite =
      ((m.drawAt px py sprite).drawAt px' py' sprite').setRegister .flag value := by
  have display := m.display.draw_comm px' py' px py sprite' sprite low' low
  refine ⟨if ((m.drawAt px' py' sprite').display.draw px py sprite).1 then 1 else 0, ?_⟩
  simp [drawAt, setRegister, display]

end

/-! ## Draw instructions -/

theorem exists_sprite {m : Machine} (h : m.Invariant) (rows : Nibble)
    (fits : m.index + rows.val ≤ 0x1000) :
    ∃ sprite, m.memory.readBlock m.index rows.val = .ok sprite ∧
      sprite.length ≤ Display.height := by
  obtain ⟨sprite, read⟩ := h.exists_read rows.val fits
  refine ⟨sprite, read, ?_⟩
  rw [Memory.length_of_readBlock read, Display.height]
  omega

theorem execute_draw_of_read {m : Machine} {sprite : List UInt8} (x y : Register) (rows : Nibble)
    (read : m.memory.readBlock m.index rows.val = .ok sprite) :
    execute (Instruction.word (.draw x y rows)) m =
      .ok .next (m.drawAt (m.register x).toNat (m.register y).toNat sprite) := by
  rw [execute_word (.draw x y rows) id, performAndAdvance_apply, perform, performDraw_apply, read]
  rfl

/-- A draw after another one finds its sprite and its position as they were. -/
theorem execute_draw_drawAt {m : Machine} {rows : Nibble} {sprite : List UInt8} {x y : Register}
    (plainX : x ≠ .flag) (plainY : y ≠ .flag)
    (read : m.memory.readBlock m.index rows.val = .ok sprite) (px py : Nat) (first : List UInt8) :
    execute (Instruction.word (.draw x y rows)) (m.drawAt px py first) =
      .ok .next ((m.drawAt px py first).drawAt (m.register x).toNat (m.register y).toNat
        sprite) := by
  have kept : (m.drawAt px py first).memory.readBlock (m.drawAt px py first).index rows.val =
      .ok sprite := read
  rw [execute_draw_of_read x y rows kept, register_drawAt m px py first plainX,
    register_drawAt m px py first plainY]

/-- A register can be replaced before a draw that finds the same place on the display. -/
theorem execute_draw_setRegister {m : Machine} {rows : Nibble} {sprite : List UInt8}
    {x y r : Register} {value : UInt8} (plain : r ≠ .flag)
    (read : m.memory.readBlock m.index rows.val = .ok sprite)
    (low : sprite.length ≤ Display.height)
    (across : ((m.setRegister r value).register x).toNat % 64 = (m.register x).toNat % 64)
    (down : ((m.setRegister r value).register y).toNat % 32 = (m.register y).toNat % 32) :
    execute (Instruction.word (.draw x y rows)) (m.setRegister r value) =
      .ok .next ((m.drawAt (m.register x).toNat (m.register y).toNat sprite).setRegister r
        value) := by
  have kept : (m.setRegister r value).memory.readBlock (m.setRegister r value).index rows.val =
      .ok sprite := read
  rw [execute_draw_of_read x y rows kept, drawAt_congr _ _ _ sprite low across down,
    drawAt_setRegister m _ _ sprite value plain]

/-- What two draws come to whose positions are not in the flag register, if their sprites lie in
    memory. A draw made twice erases itself, and its second run collides if the first one has lit a
    pixel. Two draws have the same effect in either order, but for the flag. And a draw depends on
    its column modulo 64 and on its row modulo 32. The column and the row can be in one register:
    it is then not replaced for the row alone. -/
theorem execute_draws (m : Machine) (h : m.Invariant) (x y x' y' : Register) (rows rows' : Nibble)
    (plain : x ≠ .flag ∧ y ≠ .flag) (plain' : x' ≠ .flag ∧ y' ≠ .flag)
    (fits : m.index + rows.val ≤ 0x1000) (fits' : m.index + rows'.val ≤ 0x1000) :
    let draw := execute (Instruction.word (.draw x y rows))
    let draw' := execute (Instruction.word (.draw x' y' rows'))
    ∃ m₁, draw m = .ok .next m₁ ∧
      (∃ m₂ collision, draw m₁ = .ok .next m₂ ∧ m₂.display = m.display ∧
        m₂.register .flag = (if collision then 1 else 0) ∧
        (collision = true ↔
          ∃ px py, m.display.get px py = false ∧ m.SpriteCovers x y rows px py)) ∧
      (∃ m₁' m₂ m₂' value, draw' m₁ = .ok .next m₂ ∧ draw' m = .ok .next m₁' ∧
        draw m₁' = .ok .next m₂' ∧ m₂' = m₂.setRegister .flag value) ∧
      (∀ value : UInt8, value.toNat % 64 = (m.register x).toNat % 64 →
        draw (m.setRegister x value) = .ok .next (m₁.setRegister x value)) ∧
      (x ≠ y → ∀ value : UInt8, value.toNat % 32 = (m.register y).toNat % 32 →
        draw (m.setRegister y value) = .ok .next (m₁.setRegister y value)) := by
  intro draw draw'
  obtain ⟨sprite, read, low⟩ := exists_sprite h rows fits
  obtain ⟨sprite', read', low'⟩ := exists_sprite h rows' fits'
  let px := (m.register x).toNat
  let py := (m.register y).toNat
  let px' := (m.register x').toNat
  let py' := (m.register y').toNat
  refine ⟨m.drawAt px py sprite, execute_draw_of_read x y rows read, ?_, ?_, fun value same => ?_,
    fun apart value same => ?_⟩
  · refine ⟨(m.drawAt px py sprite).drawAt px py sprite, _,
      execute_draw_drawAt plain.1 plain.2 read px py sprite, m.display.draw_draw px py sprite low,
      register_flag_drawAt (m.drawAt px py sprite) px py sprite, ?_⟩
    have collides := m.display.draw_draw_fst px py sprite low
    simp only [px, py, covers_iff_spriteCovers read] at collides
    exact collides
  · obtain ⟨value, swapped⟩ := m.drawAt_comm px py sprite px' py' low low'
    exact ⟨m.drawAt px' py' sprite', _, _, value,
      execute_draw_drawAt plain'.1 plain'.2 read' px py sprite, execute_draw_of_read x' y' rows' read',
      execute_draw_drawAt plain.1 plain.2 read px' py' sprite', swapped⟩
  · refine execute_draw_setRegister plain.1 read low ?_ ?_
    · rwa [register_setRegister_self]
    · obtain rfl | apart := eq_or_ne y x
      · rw [register_setRegister_self]
        omega
      · rw [register_setRegister_of_ne m value apart]
  · refine execute_draw_setRegister plain.2 read low ?_ ?_
    · rw [register_setRegister_of_ne m value apart]
    · rwa [register_setRegister_self]

/-! ## Digits -/

/-- The digit 0, which is what the index register of a new machine points at, has its top left pixel
    set. -/
theorem spriteCovers_digit (m : Machine) (memory : m.memory = .ofSize) (index : m.index = 0)
    (x y : Register) (rows : Nibble) (some : 0 < rows.val) :
    m.SpriteCovers x y rows (m.register x).toNat (m.register y).toNat := by
  have top : (m.memory.bytes[m.index.toNat + 0]?.any fun bits => bits.toNat.testBit 7) = true := by
    have glyph : 0 < Font.glyphs.length := by
      rw [Font.length_glyphs, Font.glyphSize]
      omega
    rw [memory, index, Int.toNat_zero, Nat.add_zero, Memory.getElem?_ofSize Memory.capacity 0 glyph]
    decide
  exact ⟨0, some, 0, by decide, top, rfl, rfl⟩

/-- A digit drawn twice on a new machine collides with itself and is gone. -/
theorem execute_draws_digit :
    let m : Machine :=
      { random := .ofList [1], registers := #v[60, 30, 0, 0, 0, 0, 0, 0, 0, 0, 0, 0, 0, 0, 0, 0] }
    m.Invariant ∧ ((0 : Register) ≠ .flag ∧ (1 : Register) ≠ .flag) ∧
      m.index + (5 : Nibble).val ≤ 0x1000 ∧
      ∃ m₁ m₂, execute 0xD015 m = .ok .next m₁ ∧ execute 0xD015 m₁ = .ok .next m₂ ∧
        m₂.display = {} ∧ m₂.register .flag = 1 := by
  intro m
  have new : Invariant { random := .ofList [1] } := invariant_new (Nat.succ_pos 0)
  have h : m.Invariant :=
    ⟨new.index, new.pc, new.slots, new.delay, new.sound, new.memory, new.random⟩
  have plain : (0 : Register) ≠ .flag ∧ (1 : Register) ≠ .flag := by decide
  have fits : m.index + (5 : Nibble).val ≤ 0x1000 := by decide
  obtain ⟨m₁, first, ⟨m₂, collision, second, display, flag, collides⟩, -⟩ :=
    execute_draws m h 0 1 0 1 5 5 plain plain fits fits
  obtain rfl : collision = true :=
    collides.mpr ⟨_, _, Display.get_clear {} _ _, m.spriteCovers_digit rfl rfl 0 1 5 (by decide)⟩
  exact ⟨h, plain, fits, m₁, m₂, first, second, display, flag⟩

/-- Modulo 32 is not enough for a register that holds the row and the column: with 32 for 0 in it a
    digit comes down half a display further right. -/
theorem execute_draw_same_register :
    let m : Machine := { random := .ofList [1] }
    m.Invariant ∧ m.index + (1 : Nibble).val ≤ 0x1000 ∧
      (32 : UInt8).toNat % 32 = (m.register 0).toNat % 32 ∧
      ∃ m₁ m₂, execute 0xD001 m = .ok .next m₁ ∧
        execute 0xD001 (m.setRegister 0 32) = .ok .next m₂ ∧ m₂.display ≠ m₁.display := by
  intro m
  have h : m.Invariant := invariant_new (Nat.succ_pos 0)
  have fits : m.index + (1 : Nibble).val ≤ 0x1000 := by decide
  obtain ⟨sprite, read, low⟩ := exists_sprite h 1 fits
  refine ⟨h, fits, by decide, _, _, execute_draw_of_read 0 0 1 read,
    execute_draw_of_read (m := m.setRegister 0 32) 0 0 1 read, fun same => ?_⟩
  have pixel (p : Nat) :
      (m.display.draw p p sprite).2.get 0 0 = decide (Display.Covers p p sprite 0 0) := by
    rw [Display.get_draw _ _ _ sprite low, show m.display.get 0 0 = false from
      Display.get_clear {} 0 0, Bool.false_xor]
  have covered : Display.Covers (0 : Nat) (0 : Nat) sprite 0 0 :=
    (covers_iff_spriteCovers (x := 0) (y := 0) read 0 0).mpr
      (m.spriteCovers_digit rfl rfl 0 0 1 (by decide))
  have uncovered : ¬ Display.Covers (32 : Nat) (32 : Nat) sprite 0 0 := by
    intro ⟨_, _, column, narrow, _, across, _⟩
    simp only [Display.width] at across
    omega
  have same : (m.display.draw (32 : Nat) (32 : Nat) sprite).2 =
      (m.display.draw (0 : Nat) (0 : Nat) sprite).2 := same
  have lit := pixel 0
  rw [← same, pixel 32, decide_eq_decide] at lit
  exact uncovered (lit.mpr covered)

end ChipEight.Machine
