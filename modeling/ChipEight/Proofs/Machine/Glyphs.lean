import ChipEight.Proofs.Machine.Parts
import ChipEight.Proofs.Machine.Redrawing

/-!
# Glyphs

The glyphs lie in front of the place of programs, in memory that a program can write to. As long as
a program that writes has the index register behind them they are never touched, since neither a
load nor a write goes down in memory: that is an invariant of runs (`HasGlyphs.afterAll`). In a
machine that has its glyphs a program draws a digit by pointing at its glyph and drawing five rows
(`HasGlyphs.drawsDigit`).
-/

namespace ChipEight

/-- The rows of a digit. -/
def Font.glyph (digit : Nibble) : List UInt8 :=
  (glyphs.drop (digit.val * glyphSize)).take glyphSize

namespace Machine

open Opcode (Matches)

/-- Memory begins with the glyphs. -/
def HasGlyphs (m : Machine) : Prop :=
  ∀ address < 80, m.memory.bytes[address]? = Font.glyphs[address]?

/-- If the next step is to write to memory, the index register points behind the glyphs. -/
def WritesBehindGlyphs (m : Machine) : Prop :=
  ∀ opcode : Nat, fetch m = .ok opcode m → Matches "FX33" opcode ∨ Matches "FX55" opcode →
    80 ≤ m.index

/-- Every step among the calls that is to write to memory finds the index register behind the
    glyphs. -/
def SparesGlyphs (m : Machine) : List Call → Prop
  | [] => True
  | c :: calls => (c = .step → m.WritesBehindGlyphs) ∧ SparesGlyphs (m.after c) calls

/-! ## Runs -/

theorem hasGlyphs_new (random : Random.Source) : HasGlyphs { random } :=
  fun address inside => Memory.getElem?_ofSize Memory.capacity address inside

theorem HasGlyphs.step {m : Machine} (h : m.HasGlyphs) (behind : m.WritesBehindGlyphs) :
    (m.after .step).HasGlyphs := by
  rw [after_step]
  cases stepped : Machine.step m with
  | error fault m' =>
    obtain ⟨rfl, -⟩ := step_eq_error stepped
    exact h
  | ok advance m' =>
    intro address inside
    have closed : ¬ Call.MayChange m .step (.byte address) := by
      rintro ⟨opcode, fetched, ⟨isDecimal, low, -⟩ | ⟨isStore, low, -⟩⟩
      · have := behind opcode fetched (.inl isDecimal)
        omega
      · have := behind opcode fetched (.inr isStore)
        omega
    have kept : m'.memory.bytes[address]? = m.memory.bytes[address]? := same_of_step stepped closed
    exact kept.trans (h address inside)

theorem HasGlyphs.load {m : Machine} (h : m.HasGlyphs) (rom : List UInt8) :
    (m.after (.load rom)).HasGlyphs := by
  rw [Machine.after, exec_load]
  cases loaded : m.memory.load rom with
  | error fault => exact h
  | ok memory =>
    intro address inside
    have below : address < Memory.romBase := by
      rw [Memory.romBase]
      omega
    exact (Memory.getElem?_of_load loaded below).trans (h address inside)

theorem HasGlyphs.after {m : Machine} (h : m.HasGlyphs) {c : Call}
    (behind : c = .step → m.WritesBehindGlyphs) : (m.after c).HasGlyphs := by
  cases c with
  | load rom => exact h.load rom
  | step => exact h.step (behind rfl)
  -- The other calls leave memory alone.
  | tick | press key | release key => exact h

theorem HasGlyphs.afterAll {m : Machine} (h : m.HasGlyphs) {calls : List Call}
    (spares : m.SparesGlyphs calls) : (m.afterAll calls).HasGlyphs := by
  induction calls generalizing m with
  | nil => exact h
  | cons c calls ih => exact ih (h.after spares.1) spares.2

/-! ## Digits -/

/-- The bytes that a digit points at are its glyph. -/
theorem HasGlyphs.readBlock {m : Machine} (h : m.HasGlyphs) (digit : Nibble) :
    m.memory.readBlock (digit.val * Font.glyphSize : Nat) Font.glyphSize =
      .ok (Font.glyph digit) := by
  have narrow := digit.isLt
  let font : Memory := ⟨Font.glyphs.toArray⟩
  have size : font.size = 80 := rfl
  have read : font.readBlock (digit.val * Font.glyphSize : Nat) Font.glyphSize =
      .ok (Font.glyph digit) := by
    refine (font.readBlock_eq_ok_iff _ _ _).mpr ⟨Int.natCast_nonneg _, ?_, rfl⟩
    rw [size, Font.glyphSize]
    omega
  refine Memory.readBlock_congr read (by decide) fun address low high => ?_
  rw [Font.glyphSize] at high
  exact (h address (by omega)).trans List.getElem?_toArray.symm

/-- When the index register is made to point at the glyph of the digit in register `x`, and then five
    rows are drawn at the position in registers `a` and `b`, the pixels under the glyph are toggled,
    and the flag tells whether one of them was lit. -/
def DrawsDigit (m : Machine) (digit : Nibble) (x a b : Register) : Prop :=
  ∃ m₁ collision display, execute (Instruction.word (.loadGlyph x)) m = .ok .next m₁ ∧
    execute (Instruction.word (.draw a b 5)) m₁ =
      .ok .next { m.setRegister .flag (if collision then 1 else 0) with
        display, index := 5 * digit.val, pc := (m.pc + 4) % 0x10000 } ∧
    (∀ px py, display.get px py = (m.display.get px py ^^
      decide (Display.Covers (m.register a).toNat (m.register b).toNat (Font.glyph digit) px py))) ∧
    (collision = true ↔ ∃ px py, m.display.get px py = true ∧
      Display.Covers (m.register a).toNat (m.register b).toNat (Font.glyph digit) px py)

theorem HasGlyphs.drawsDigit {m : Machine} (h : m.HasGlyphs) {digit : Nibble} {x : Register}
    (holds : (m.register x).toNat = digit.val) (a b : Register) :
    m.DrawsDigit digit x a b := by
  let drawn := m.display.draw (m.register a).toNat (m.register b).toNat (Font.glyph digit)
  let m₁ : Machine := { m with index := 5 * digit.val, pc := (m.pc + 2) % 0x10000 }
  have low : (Font.glyph digit).length ≤ Display.height := by
    rw [Font.glyph, Font.glyphSize, List.length_take, Display.height]
    omega
  have pointed : execute (Instruction.word (.loadGlyph x)) m = .ok .next m₁ := by
    rw [execute_word (.loadGlyph x) id, performAndAdvance_apply]
    simp only [perform, continueWith_apply, advance, holds, Font.glyphSize, m₁]
    rw [Int.mul_comm]
    rfl
  have read : m₁.memory.readBlock m₁.index (5 : Nibble).val = .ok (Font.glyph digit) := by
    have read := h.readBlock digit
    rw [Font.glyphSize, Nat.mul_comm] at read
    exact read
  refine ⟨m₁, drawn.1, drawn.2, pointed, ?_, m.display.get_draw _ _ _ low,
    m.display.draw_fst _ _ _ low⟩
  rw [execute_draw_of_read a b 5 read]
  have further : ((m.pc + 2) % 0x10000 + 2) % 0x10000 = (m.pc + 4) % 0x10000 := by omega
  simp only [drawAt, m₁, further]
  rfl

/-- As long as a new machine writes to memory behind the glyphs only, whatever else is asked of it,
    it has them as they were built in. So it can draw any digit that is in a register, anywhere on
    the display. -/
theorem glyphs_intact (random : Random.Source) (calls : List Call)
    (spares : SparesGlyphs { random } calls) :
    let m := afterAll { random } calls
    m.HasGlyphs ∧ ∀ (digit : Nibble) (x a b : Register), (m.register x).toNat = digit.val →
      m.DrawsDigit digit x a b := by
  intro m
  have intact : m.HasGlyphs := (hasGlyphs_new random).afterAll spares
  exact ⟨intact, fun _ _ a b holds => intact.drawsDigit holds a b⟩

/-- A program that saves two registers right behind the glyphs still draws the digit 0. -/
theorem glyphs_intact_boundary :
    let calls : List Call := [.load [0xA0, 0x50, 0xF1, 0x55], .step, .press 3, .step]
    let m := afterAll { random := .ofList [7] } calls
    SparesGlyphs { random := .ofList [7] } calls ∧ m.HasGlyphs ∧ (m.register 0).toNat = 0 ∧
      ∃ m₁ m₂, execute 0xF029 m = .ok .next m₁ ∧ execute 0xD125 m₁ = .ok .next m₂ ∧
        m₂.display.get 0 0 = true := by
  intro calls m
  obtain ⟨memory, loaded, size, -⟩ := Memory.exists_loaded [0xA0, 0x50, 0xF1, 0x55] (by simp)
  let m₁ : Machine := { random := .ofList [7], memory, pc := (0x200 : Nat) }
  let m₂ : Machine := { m₁ with index := 0x50, pc := (0x202 : Nat) }
  have points : m₁.memory.readWord m₁.pc = .ok (Instruction.word (.loadIndex 0x50)) :=
    Memory.readWord_of_load loaded 0 rfl rfl rfl
  have saves : (m₂.press 3).memory.readWord (m₂.press 3).pc =
      .ok (Instruction.word (.storeRegisters 1)) :=
    Memory.readWord_of_load loaded 2 rfl rfl rfl
  have first : after { random := .ofList [7] } (.load [0xA0, 0x50, 0xF1, 0x55]) = m₁ := by
    rw [after, exec_load, loaded]
    rfl
  have second : m₁.after .step = m₂ := by
    rw [after_step, step_word (i := .loadIndex 0x50) id points]
    rfl
  obtain ⟨memory', written⟩ : ∃ memory', memory.writeBlock 0x50 [0, 0] = .ok memory' :=
    ⟨_, (memory.writeBlock_eq_ok_iff _ _ _).mpr ⟨by decide, by rw [size]; decide, rfl⟩⟩
  have third : (m₂.press 3).after .step = { m₂.press 3 with memory := memory', pc := 0x204 } := by
    have written : (m₂.press 3).memory.writeBlock (m₂.press 3).index
        ((m₂.press 3).registers.toList.take ((1 : Register).val + 1)) = .ok memory' := written
    rw [after_step, step_word (i := .storeRegisters 1) id saves, performAndAdvance_apply,
      perform_storeRegisters, performWrite_apply, written]
    rfl
  have spares : SparesGlyphs { random := .ofList [7] } calls := by
    refine ⟨by simp, fun _ => ?_, by simp, fun _ => ?_, trivial⟩
    · rw [first]
      intro opcode fetched writes
      obtain rfl := eq_of_fetch fetched points
      exact absurd writes (by decide)
    · rw [first, second]
      exact fun _ _ _ => Int.le_refl 80
  have reached : m = { m₂.press 3 with memory := memory', pc := 0x204 } := by
    simp only [m, calls, afterAll, List.foldl_cons, List.foldl_nil]
    rw [first, second, after_press, third]
  obtain ⟨intact, draws⟩ := glyphs_intact (.ofList [7]) calls spares
  have zero (r : Register) : (m.register r).toNat = 0 := by
    rw [reached]
    simp [register, press, m₂, m₁]
  obtain ⟨m₃, collision, display, pointed, drawn, pixels, -⟩ := draws 0 0 1 2 (zero 0)
  refine ⟨spares, intact, zero 0, m₃, _, pointed, drawn, ?_⟩
  have covered : Display.Covers (0 : Nat) (0 : Nat) (Font.glyph 0) 0 0 :=
    ⟨0, by decide, 0, by decide, rfl, rfl, rfl⟩
  have dark : m.display.get 0 0 = false := by
    rw [reached]
    exact Display.get_clear {} 0 0
  rw [pixels, zero 1, zero 2, dark, decide_eq_true covered]
  rfl

end Machine

end ChipEight
