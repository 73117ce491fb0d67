import ChipEight.Proofs.Assembly.FirstPass
import ChipEight.Proofs.Assembly.Reference

/-!
# Words

A template of an operation makes a word with any operands that are in range (`encode_template`).
The word of an instruction is the sum that the reference has for it, because the bits of template
and operands never meet: `encode_fields`.
-/

namespace ChipEight

/-- The operands of an instruction with the places they go to. -/
def Instruction.fields : Instruction → List (Assembly.Field × Int)
  | .clear | .ret => []
  | .sys target | .jump target | .call target | .loadIndex target | .jumpOffset target =>
    [(.address, target.val)]
  | .skipEqual x value | .skipUnequal x value | .load x value | .add x value | .random x value =>
    [(.x, x.val), (.byte, value.toNat)]
  | .skipSame x y | .skipDifferent x y | .copy x y | .or x y | .and x y | .xor x y
  | .addRegister x y | .sub x y
  | .subFrom x y | .shiftRight x y | .shiftLeft x y => [(.x, x.val), (.y, y.val)]
  | .draw x y rows => [(.x, x.val), (.y, y.val), (.nibble, rows.val)]
  | .skipPressed x | .skipReleased x | .readDelay x | .waitKey x | .setDelay x | .setSound x
  | .addIndex x
  | .loadGlyph x | .storeDecimal x | .storeRegisters x | .loadRegisters x => [(.x, x.val)]

namespace Assembly

/-- Numbers whose bits do not meet are added. -/
theorem or_low (high low k : Nat) (small : low < 2 ^ k) :
    (2 ^ k * high) ||| low = 2 ^ k * high + low :=
  (Nat.two_pow_add_eq_or_of_lt small high).symm

theorem or_x (family x low : Nat) (xSmall : x < 0x10) (lowSmall : low < 0x100) :
    (0x1000 * family + low) ||| (x <<< 8) = 0x1000 * family + 0x100 * x + low := by
  calc (0x1000 * family + low) ||| (x <<< 8)
      -- The low byte is taken off, the digit put in its place, and the low byte put on again.
      = (2 ^ 12 * family ||| low) ||| (2 ^ 8 * x) := by
        rw [or_low family low 12 (by omega), Nat.shiftLeft_eq, Nat.mul_comm x]
        rfl
    _ = (2 ^ 12 * family ||| 2 ^ 8 * x) ||| low := by
        rw [Nat.or_assoc, Nat.or_comm low, ← Nat.or_assoc]
    _ = 2 ^ 8 * (16 * family + x) ||| low := by
        rw [or_low family (2 ^ 8 * x) 12 (by omega)]
        congr 1
        omega
    _ = 0x1000 * family + 0x100 * x + low := by
        rw [or_low _ low 8 (by omega)]
        omega

theorem or_y (high y low : Nat) (ySmall : y < 0x10) (lowSmall : low < 0x10) :
    (0x100 * high + low) ||| (y <<< 4) = 0x100 * high + 0x10 * y + low := by
  calc (0x100 * high + low) ||| (y <<< 4)
      = (2 ^ 8 * high ||| low) ||| (2 ^ 4 * y) := by
        rw [or_low high low 8 (by omega), Nat.shiftLeft_eq, Nat.mul_comm y]
        rfl
    _ = (2 ^ 8 * high ||| 2 ^ 4 * y) ||| low := by
        rw [Nat.or_assoc, Nat.or_comm low, ← Nat.or_assoc]
    _ = 2 ^ 4 * (16 * high + y) ||| low := by
        rw [or_low high (2 ^ 4 * y) 8 (by omega)]
        congr 1
        omega
    _ = 0x100 * high + 0x10 * y + low := by
        rw [or_low _ low 4 (by omega)]
        omega

/-- A template with operands is encoded if that is a word. -/
theorem encode_eq_ok (template word : Nat) (operands : List (Field × Int))
    (placed :
      operands.foldl (fun w (field, value) => w ||| (value.toNat <<< field.shift)) template = word)
    (small : word < 0x10000) : encode template operands = .ok word := by
  have notNegative : ¬ ((template : Int) < 0 ∨ 0x10000000000000000 ≤ word) := by omega
  simp only [encode, Int.toNat_natCast, placed, if_neg notNegative, if_neg (Nat.not_le.mpr small)]

/-! ## Templates -/

/-- Whether the template of an action, if it has one, is that of an operation. -/
def Action.HasTemplate : Action → Prop
  | .word template _ | .reference template _ =>
    ∃ op : Operation Literal Literal Target, template = op.template
  | .data _ | .bytes _ | .label _ | .unknown _ => True

theorem template_lt (op : Operation Literal Literal Target) : op.template < 0x10000 := by
  cases op <;> simp [Operation.template]

/-- A template with operands in their places. -/
def placedIn (template : Nat) (operands : List (Field × Int)) : Nat :=
  operands.foldl (fun word (field, value) => word ||| (value.toNat <<< field.shift)) template

/-- Operands that are in range make no word too wide. -/
theorem placedIn_lt (template : Nat) (operands : List (Field × Int)) (small : template < 2 ^ 16)
    (inside : ∀ operand ∈ operands, ¬ isOutside operand = true) :
    placedIn template operands < 2 ^ 16 := by
  induction operands generalizing template with
  | nil => exact small
  | cons operand operands ih =>
    obtain ⟨first, others⟩ := List.forall_mem_cons.mp inside
    obtain ⟨field, value⟩ := operand
    refine ih _ (Nat.or_lt_two_pow small ?_) others
    obtain ⟨lower, upper⟩ := (not_isOutside_iff _).mp first
    rw [Nat.shiftLeft_eq]
    cases field <;> simp only [Field.limit, Field.shift] at upper ⊢ <;> omega

theorem encode_template (op : Operation Literal Literal Target) (operands : List (Field × Int))
    (inside : ∀ operand ∈ operands, ¬ isOutside operand = true) :
    encode op.template operands = .ok (placedIn op.template operands) :=
  encode_eq_ok op.template _ operands rfl (placedIn_lt _ operands (template_lt op) inside)

/-- Whether the template that an action makes a word of, if it does, has no more than sixteen
    bits. -/
def Action.HasWord : Action → Prop
  | .word template _ => 0 ≤ template ∧ template < 0x10000
  | .reference _ _ | .data _ | .bytes _ | .label _ | .unknown _ => True

theorem Action.HasTemplate.hasWord {a : Action} (h : a.HasTemplate) : a.HasWord := by
  cases a with
  | word template operands =>
    obtain ⟨op, rfl⟩ := h
    exact ⟨Int.natCast_nonneg _, Int.ofNat_lt.mpr (template_lt op)⟩
  | reference _ _ | data _ | bytes _ | label _ | unknown _ => trivial

/-- An action with a template passes if it is known and its operands are in range. -/
theorem passes_iff (a : Action) (word : a.HasWord) :
    a.Passes ↔ (∀ text, a ≠ .unknown text) ∧
      ∀ operand ∈ a.operands, ¬ isOutside operand = true := by
  simp only [Action.Passes, List.find?_eq_none]
  cases a with
  | word template operands =>
    obtain ⟨nonneg, small⟩ := word
    obtain ⟨t, rfl⟩ := Int.eq_ofNat_of_zero_le nonneg
    constructor
    · exact fun passes => ⟨by simp, passes.1⟩
    · intro inside
      have fits := placedIn_lt t operands (Int.ofNat_lt.mp small) inside.2
      exact ⟨inside.2, _, encode_eq_ok t _ operands rfl fits⟩
  | unknown text => exact iff_of_false (fun passes => passes.2) fun known => known.1 text rfl
  | reference _ _ | data _ | bytes _ | label _ =>
    exact ⟨fun passes => ⟨by simp, passes.1⟩, fun inside => ⟨inside.2, trivial⟩⟩

/-! ## Words of instructions -/

theorem encode_address (family : Nat) (target : Address) (small : family < 0x10) :
    encode (0x1000 * family : Nat) [(.address, (target.val : Int))] =
      .ok (0x1000 * family + target.val) := by
  have bound := target.isLt
  apply encode_eq_ok
  · exact or_low family target.val 12 bound
  · omega

theorem encode_x (family low : Nat) (x : Register) (small : family < 0x10)
    (lowSmall : low < 0x100) :
    encode (0x1000 * family + low : Nat) [(.x, (x.val : Int))] =
      .ok (0x1000 * family + low + 0x100 * x.val) := by
  have bound := x.isLt
  apply encode_eq_ok
  · change (0x1000 * family + low) ||| (x.val <<< 8) = _
    rw [or_x family x.val low bound lowSmall]
    omega
  · omega

theorem encode_byte (family : Nat) (x : Register) (value : UInt8) (small : family < 0x10) :
    encode (0x1000 * family + 0 : Nat) [(.x, (x.val : Int)), (.byte, (value.toNat : Int))] =
      .ok (0x1000 * family + 0x100 * x.val + value.toNat) := by
  have bound := x.isLt
  have valueBound := value.toNat_lt
  apply encode_eq_ok
  · change ((0x1000 * family + 0) ||| (x.val <<< 8)) ||| value.toNat = _
    rw [or_x family x.val 0 bound (by decide)]
    calc (0x1000 * family + 0x100 * x.val + 0) ||| value.toNat
        = 2 ^ 8 * (16 * family + x.val) ||| value.toNat := by
          congr 1
          omega
      _ = 0x1000 * family + 0x100 * x.val + value.toNat := by
          rw [or_low _ _ 8 valueBound]
          omega
  · omega

theorem encode_xy (family low : Nat) (x y : Register) (small : family < 0x10)
    (lowSmall : low < 0x10) :
    encode (0x1000 * family + low : Nat) [(.x, (x.val : Int)), (.y, (y.val : Int))] =
      .ok (0x1000 * family + low + 0x100 * x.val + 0x10 * y.val) := by
  have xBound := x.isLt
  have yBound := y.isLt
  apply encode_eq_ok
  · change ((0x1000 * family + low) ||| (x.val <<< 8)) ||| (y.val <<< 4) = _
    rw [or_x family x.val low xBound (by omega)]
    calc (0x1000 * family + 0x100 * x.val + low) ||| (y.val <<< 4)
        = (0x100 * (16 * family + x.val) + low) ||| (y.val <<< 4) := by
          congr 1
          omega
      _ = 0x1000 * family + low + 0x100 * x.val + 0x10 * y.val := by
          rw [or_y _ _ _ yBound lowSmall]
          omega
  · omega

theorem encode_draw (x y rows : Nibble) :
    encode (0xD000 : Nat) [(.x, (x.val : Int)), (.y, (y.val : Int)), (.nibble, (rows.val : Int))] =
      .ok (0xD000 + 0x100 * x.val + 0x10 * y.val + rows.val) := by
  have xBound := x.isLt
  have yBound := y.isLt
  have rowsBound := rows.isLt
  apply encode_eq_ok
  · change (((0x1000 * 0xD + 0) ||| (x.val <<< 8)) ||| (y.val <<< 4)) ||| rows.val = _
    rw [or_x 0xD x.val 0 xBound (by decide)]
    calc ((0x1000 * 0xD + 0x100 * x.val + 0) ||| (y.val <<< 4)) ||| rows.val
        = ((0x100 * (16 * 0xD + x.val) + 0) ||| (y.val <<< 4)) ||| rows.val := by
          congr 2
          omega
      _ = 2 ^ 4 * (256 * 0xD + 16 * x.val + y.val) ||| rows.val := by
          rw [or_y _ _ _ yBound (by decide)]
          congr 1
          omega
      _ = 0xD000 + 0x100 * x.val + 0x10 * y.val + rows.val := by
          rw [or_low _ _ 4 rowsBound]
          omega
  · omega

/-- The template of an instruction with its operands in their places is its word. -/
theorem encode_fields (i : Instruction) : encode i.template i.fields = .ok i.word := by
  cases i with
  | clear | ret => rfl
  | sys target =>
    change _ = Except.ok target.val
    rw [← Nat.zero_add target.val]
    exact encode_address 0 target (by decide)
  | jump target => exact encode_address 1 target (by decide)
  | call target => exact encode_address 2 target (by decide)
  | loadIndex target => exact encode_address 0xA target (by decide)
  | jumpOffset target => exact encode_address 0xB target (by decide)
  | skipEqual x value => exact encode_byte 3 x value (by decide)
  | skipUnequal x value => exact encode_byte 4 x value (by decide)
  | load x value => exact encode_byte 6 x value (by decide)
  | add x value => exact encode_byte 7 x value (by decide)
  | random x mask => exact encode_byte 0xC x mask (by decide)
  | skipSame x y => exact encode_xy 5 0 x y (by decide) (by decide)
  | skipDifferent x y => exact encode_xy 9 0 x y (by decide) (by decide)
  | copy x y => exact encode_xy 8 0 x y (by decide) (by decide)
  | or x y => exact encode_xy 8 1 x y (by decide) (by decide)
  | and x y => exact encode_xy 8 2 x y (by decide) (by decide)
  | xor x y => exact encode_xy 8 3 x y (by decide) (by decide)
  | addRegister x y => exact encode_xy 8 4 x y (by decide) (by decide)
  | sub x y => exact encode_xy 8 5 x y (by decide) (by decide)
  | shiftRight x y => exact encode_xy 8 6 x y (by decide) (by decide)
  | subFrom x y => exact encode_xy 8 7 x y (by decide) (by decide)
  | shiftLeft x y => exact encode_xy 8 0xE x y (by decide) (by decide)
  | draw x y rows => exact encode_draw x y rows
  | skipPressed x => exact encode_x 0xE 0x9E x (by decide) (by decide)
  | skipReleased x => exact encode_x 0xE 0xA1 x (by decide) (by decide)
  | readDelay x => exact encode_x 0xF 0x07 x (by decide) (by decide)
  | waitKey x => exact encode_x 0xF 0x0A x (by decide) (by decide)
  | setDelay x => exact encode_x 0xF 0x15 x (by decide) (by decide)
  | setSound x => exact encode_x 0xF 0x18 x (by decide) (by decide)
  | addIndex x => exact encode_x 0xF 0x1E x (by decide) (by decide)
  | loadGlyph x => exact encode_x 0xF 0x29 x (by decide) (by decide)
  | storeDecimal x => exact encode_x 0xF 0x33 x (by decide) (by decide)
  | storeRegisters x => exact encode_x 0xF 0x55 x (by decide) (by decide)
  | loadRegisters x => exact encode_x 0xF 0x65 x (by decide) (by decide)

theorem find?_fields (i : Instruction) : i.fields.find? isOutside = none := by
  rw [List.find?_eq_none]
  have small (k : Nat) (n : Fin k) : 0 ≤ (n.val : Int) ∧ (n.val : Int) < k := by omega
  have smallByte (b : UInt8) : 0 ≤ (b.toNat : Int) ∧ (b.toNat : Int) < (0x100 : Nat) := by
    have := b.toNat_lt
    omega
  intro operand mem
  rw [not_isOutside_iff]
  cases i with
  | clear | ret => cases mem
  | sys target | jump target | call target | loadIndex target | jumpOffset target =>
    obtain rfl := List.mem_singleton.mp mem
    exact small _ target
  | skipEqual x value | skipUnequal x value | load x value | add x value | random x value =>
    obtain rfl | mem := List.mem_cons.mp mem
    · exact small _ x
    · obtain rfl := List.mem_singleton.mp mem
      exact smallByte value
  | draw x y rows =>
    obtain rfl | mem := List.mem_cons.mp mem
    · exact small _ x
    · obtain rfl | mem := List.mem_cons.mp mem
      · exact small _ y
      · obtain rfl := List.mem_singleton.mp mem
        exact small _ rows
  | skipSame x y | skipDifferent x y | copy x y | or x y | and x y | xor x y | addRegister x y
  | sub x y
  | subFrom x y | shiftRight x y | shiftLeft x y =>
    obtain rfl | mem := List.mem_cons.mp mem
    · exact small _ x
    · obtain rfl := List.mem_singleton.mp mem
      exact small _ y
  | skipPressed x | skipReleased x | readDelay x | waitKey x | setDelay x | setSound x | addIndex x
  | loadGlyph x | storeDecimal x | storeRegisters x | loadRegisters x =>
    obtain rfl := List.mem_singleton.mp mem
    exact small _ x

end Assembly

end ChipEight
