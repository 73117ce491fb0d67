import ChipEight.Opcode
import ChipEight.Proofs.Assembly.Reference

/-!
# Words and their instructions

The table of words and the decoder were written apart. Here they are inverse to each other: a word
is decoded to the instruction that it is the word of (`decode?_word`), and a number that is decoded
is the word of its instruction (`word_of_decode?`). Only family 0 needs care. It is the one family
whose operations are told apart by whole words, so two addresses cannot be those of a `sys`.
-/

namespace ChipEight

theorem Instruction.word_lt (i : Instruction) : i.word < 0x10000 := by
  cases i with
  | clear | ret => decide
  | sys target | jump target | call target | loadIndex target | jumpOffset target =>
    have := target.isLt
    simp only [Instruction.word]
    omega
  | skipEqual x value | skipUnequal x value | load x value | add x value | random x value =>
    have := x.isLt
    have := value.toNat_lt
    simp only [Instruction.word]
    omega
  | skipSame x y | skipDifferent x y | copy x y | or x y | and x y | xor x y | addRegister x y
  | sub x y | subFrom x y | shiftRight x y | shiftLeft x y =>
    have := x.isLt
    have := y.isLt
    simp only [Instruction.word]
    omega
  | draw x y rows =>
    have := x.isLt
    have := y.isLt
    have := rows.isLt
    simp only [Instruction.word]
    omega
  | skipPressed x | skipReleased x | readDelay x | waitKey x | setDelay x | setSound x | addIndex x
  | loadGlyph x | storeDecimal x | storeRegisters x | loadRegisters x =>
    have := x.isLt
    simp only [Instruction.word]
    omega

namespace Opcode

/-! ## Fields of a word -/

theorem x_val (word : Nat) : (x word).val = word / 0x100 % 16 := by
  change ((word : Int) / 0x100 % 16).toNat = _
  omega

theorem y_val (word : Nat) : (y word).val = word / 0x10 % 16 := by
  change ((word : Int) / 0x10 % 16).toNat = _
  omega

theorem n_val (word : Nat) : (n word).val = word % 16 := by
  change ((word : Int) % 16).toNat = _
  omega

theorem nn_toNat (word : Nat) : (nn word).toNat = word % 0x100 := by
  change ((word : Int) % 0x100).toNat % 0x100 = _
  omega

theorem nnn_val (word : Nat) : (nnn word).val = word % 0x1000 := by
  change ((word : Int) % 0x1000).toNat = _
  omega

/-! ## The template of a word -/

/-- Two words of a family belong to the same operation if they agree up to this number. -/
def selector (family : Nat) : Nat :=
  match family with
  | 0x5 | 0x8 | 0x9 => 0x10
  | 0xE | 0xF => 0x100
  | _ => 1

theorem selector_pos (family : Nat) : 0 < selector family := by
  unfold selector
  split <;> decide

theorem selector_le (family : Nat) : selector family ≤ 0x100 := by
  unfold selector
  split <;> decide

theorem templateOfBits_eq (word : Nat) (notZero : 0x1000 ≤ word) :
    templateOfBits word = 0x1000 * (word / 0x1000) + word % selector (word / 0x1000) := by
  unfold templateOfBits selector
  split
  next isZero => omega
  next family => simp only [family]
  next family => simp only [family]
  next family => simp only [family]
  next family => simp only [family]
  next family => simp only [family]
  next => simp [*, Nat.mod_one, Nat.mul_comm]

/-- Outside family 0, the template of a word is left when the bits are taken away that do not select
    its operation. -/
theorem template?_eq (word : Nat) (notZero : 0x1000 ≤ word) (bound : word < 0x10000) :
    template? word = some (0x1000 * (word / 0x1000) + word % selector (word / 0x1000)) := by
  have isWord : -0x10000 ≤ (word : Int) ∧ (word : Int) < 0x10000 := by omega
  have sameBits : ((word : Int) % 0x10000).toNat = word := by omega
  rw [template?, if_neg (by omega), if_pos isWord, sameBits, templateOfBits_eq word notZero]

theorem template?_family_zero (word : Nat) (isZero : word < 0x1000) :
    template? word = some (if word = 0x00E0 ∨ word = 0x00EE then word else 0) := by
  have isFamilyZero : 0 ≤ (word : Int) ∧ (word : Int) < 0x1000 := by omega
  rw [template?, if_pos isFamilyZero]
  by_cases whole : word = 0x00E0 ∨ word = 0x00EE
  · have wholeInt : (word : Int) = 0x00E0 ∨ (word : Int) = 0x00EE := by omega
    rw [if_pos whole, if_pos wholeInt, Int.toNat_natCast]
  · have notWholeInt : ¬ ((word : Int) = 0x00E0 ∨ (word : Int) = 0x00EE) := by omega
    rw [if_neg whole, if_neg notWholeInt]

/-- Whether an instruction is a `sys` with one of the two addresses whose words belong to other
    operations. -/
def Collides : Instruction → Prop
  | .sys target => target.val = 0x0E0 ∨ target.val = 0x0EE
  | _ => False

theorem template?_of_family {word template : Nat} (step : Nat) (bound : word < 0x10000)
    (notZero : 0x1000 ≤ template) (selects : selector (template / 0x1000) = step)
    (family : word / 0x1000 = template / 0x1000) (selected : word % step = template % 0x1000) :
    template? word = some template := by
  rw [template?_eq word (by omega) bound, family, selects, selected, Nat.div_add_mod]

/-- The template of the word of an instruction is that of its operation. -/
theorem template?_word (i : Instruction) (notCollides : ¬ Collides i) :
    template? i.word = some i.template := by
  have bound := i.word_lt
  cases i with
  | sys target =>
    exact (template?_family_zero _ target.isLt).trans (congrArg some (if_neg notCollides))
  | clear | ret => rfl
  | jump target | call target | loadIndex target | jumpOffset target =>
    have := target.isLt
    simp only [Instruction.word, Operation.template] at bound ⊢
    exact template?_of_family 1 bound (by decide) rfl (by omega) (by omega)
  | skipEqual x value | skipUnequal x value | load x value | add x value | random x value =>
    have := x.isLt
    have := value.toNat_lt
    simp only [Instruction.word, Operation.template] at bound ⊢
    exact template?_of_family 1 bound (by decide) rfl (by omega) (by omega)
  | draw x y rows =>
    have := x.isLt
    have := y.isLt
    have := rows.isLt
    simp only [Instruction.word, Operation.template] at bound ⊢
    exact template?_of_family 1 bound (by decide) rfl (by omega) (by omega)
  | skipSame x y | skipDifferent x y | copy x y | or x y | and x y | xor x y | addRegister x y
  | sub x y | subFrom x y | shiftRight x y | shiftLeft x y =>
    have := x.isLt
    have := y.isLt
    simp only [Instruction.word, Operation.template] at bound ⊢
    exact template?_of_family 0x10 bound (by decide) rfl (by omega) (by omega)
  | skipPressed x | skipReleased x | readDelay x | waitKey x | setDelay x | setSound x | addIndex x
  | loadGlyph x | storeDecimal x | storeRegisters x | loadRegisters x =>
    have := x.isLt
    simp only [Instruction.word, Operation.template] at bound ⊢
    exact template?_of_family 0x100 bound (by decide) rfl (by omega) (by omega)

theorem x_eq {word : Nat} {r : Register} (field : word / 0x100 % 16 = r.val) : x word = r :=
  Fin.ext ((x_val word).trans field)

theorem y_eq {word : Nat} {r : Register} (field : word / 0x10 % 16 = r.val) : y word = r :=
  Fin.ext ((y_val word).trans field)

theorem n_eq {word : Nat} {k : Nibble} (field : word % 16 = k.val) : n word = k :=
  Fin.ext ((n_val word).trans field)

theorem nn_eq {word : Nat} {b : UInt8} (field : word % 0x100 = b.toNat) : nn word = b :=
  UInt8.toNat_inj.mp ((nn_toNat word).trans field)

theorem nnn_eq {word : Nat} {a : Address} (field : word % 0x1000 = a.val) : nnn word = a :=
  Fin.ext ((nnn_val word).trans field)

/-- An instruction is found by its template, with the operands that its word holds. -/
theorem instruction?_word (i : Instruction) : instruction? i.template i.word = some i := by
  cases i with
  | clear | ret => rfl
  | sys target | jump target | call target | loadIndex target | jumpOffset target =>
    have := target.isLt
    refine (congrArg some ?_ : _ = some _)
    rw [nnn_eq]
    simp only [Instruction.word]
    omega
  | skipEqual x value | skipUnequal x value | load x value | add x value | random x value =>
    have := x.isLt
    have := value.toNat_lt
    refine (congrArg some ?_ : _ = some _)
    rw [x_eq, nn_eq] <;> simp only [Instruction.word] <;> omega
  | skipSame x y | skipDifferent x y | copy x y | or x y | and x y | xor x y | addRegister x y
  | sub x y | subFrom x y | shiftRight x y | shiftLeft x y =>
    have := x.isLt
    have := y.isLt
    refine (congrArg some ?_ : _ = some _)
    rw [x_eq, y_eq] <;> simp only [Instruction.word] <;> omega
  | draw x y rows =>
    have := x.isLt
    have := y.isLt
    have := rows.isLt
    refine (congrArg some ?_ : _ = some _)
    rw [x_eq, y_eq, n_eq] <;> simp only [Instruction.word] <;> omega
  | skipPressed x | skipReleased x | readDelay x | waitKey x | setDelay x | setSound x | addIndex x
  | loadGlyph x | storeDecimal x | storeRegisters x | loadRegisters x =>
    have := x.isLt
    refine (congrArg some ?_ : _ = some _)
    rw [x_eq]
    simp only [Instruction.word]
    omega

/-! ## Decoding -/

theorem decode?_of_template {op : Int} {template : Nat} (found : template? op = some template) :
    decode? op = instruction? template op := by
  rw [decode?, found, Option.bind_some]

/-- A word is decoded to the instruction that it is the word of. -/
theorem decode?_word (i : Instruction) (notCollides : ¬ Collides i) :
    decode? i.word = some i := by
  rw [decode?_of_template (template?_word i notCollides), instruction?_word]

/-- Templates below the families of operands are those of family 0. -/
theorem family_zero_of_template? {word template : Nat} (bound : word < 0x10000)
    (found : template? word = some template) (isZero : template < 0x1000) :
    word = template ∨ word < 0x1000 ∧ template = 0 := by
  by_cases family : word < 0x1000
  · rw [template?_family_zero word family, Option.some.injEq] at found
    split at found
    · exact .inl found
    · exact .inr ⟨family, found.symm⟩
  · rw [template?_eq word (by omega) bound, Option.some.injEq] at found
    omega

/-- The other templates tell the family of a word, and its bits that select the operation. -/
theorem family_of_template? {word template : Nat} (bound : word < 0x10000)
    (found : template? word = some template) (notZero : 0x1000 ≤ template) :
    word / 0x1000 = template / 0x1000 ∧
      word % selector (template / 0x1000) = template % 0x1000 := by
  by_cases isZero : word < 0x1000
  · rw [template?_family_zero word isZero, Option.some.injEq] at found
    split at found <;> omega
  · rw [template?_eq word (by omega) bound, Option.some.injEq] at found
    have small : word % selector (word / 0x1000) < 0x1000 :=
      Nat.lt_of_lt_of_le (Nat.mod_lt _ (selector_pos _))
        (Nat.le_trans (selector_le _) (by decide))
    have family : word / 0x1000 = template / 0x1000 := by omega
    refine ⟨family, ?_⟩
    rw [← family]
    omega

/-- What is decoded is the word of its instruction: no bit of it is lost. -/
theorem word_of_decode? {word : Nat} {i : Instruction} (bound : word < 0x10000)
    (decoded : decode? word = some i) : i.word = word := by
  obtain ⟨template, found, selected⟩ := Option.bind_eq_some_iff.mp decoded
  unfold instruction? at selected
  split at selected
  -- The first three lines of the table are family 0. The last one is that of all templates without
  -- an instruction.
  case h_1 =>
    obtain rfl := Option.some.inj selected
    have family := family_zero_of_template? bound found (by decide)
    simp only [Instruction.word, nnn_val]
    omega
  case h_2 | h_3 =>
    obtain rfl := Option.some.inj selected
    have family := family_zero_of_template? bound found (by decide)
    simp only [Instruction.word]
    omega
  case h_36 => cases selected
  all_goals
    obtain rfl := Option.some.inj selected
    obtain ⟨family, low⟩ := family_of_template? bound found (by decide)
    simp only [Nat.reduceDiv, Nat.reduceMod, selector] at family low
    simp only [Instruction.word, x_val, y_val, n_val, nn_toNat, nnn_val]
    omega

end Opcode

end ChipEight
