import ChipEight.Proofs.Assembly.Characters
import Mathlib

/-!
# Numerals

Which characters are digits, and what digits stand for in positional notation: each of them counts as
often as the power of the base at its place says. That is how numbers are meant, and it says nothing
of how they are read. The assembler finds the value of a digit among its neighbours in the character
set, and goes through the digits from the left (`Literal.value`).
-/

namespace ChipEight.Assembly

theorem isNameChar_of_isHexDigit {c : Char} (h : isHexDigit c) : isNameChar c := by
  simp only [isHexDigit, isNameChar, Char.isAlphanum, Char.isAlpha, Char.isUpper, Char.isLower,
    Bool.or_eq_true, Bool.and_eq_true, decide_eq_true_eq] at h ⊢
  obtain (digit | small) | capital := h
  · exact .inl (.inr digit)
  · exact .inl (.inl (.inr ⟨small.1, Nat.le_trans small.2 (by decide)⟩))
  · exact .inl (.inl (.inl ⟨capital.1, Nat.le_trans capital.2 (by decide)⟩))

namespace Numeral

/-- The digits in their order. -/
def digits : List Char :=
  ['0', '1', '2', '3', '4', '5', '6', '7', '8', '9', 'a', 'b', 'c', 'd', 'e', 'f']

/-- The value of a digit, which is its place among the digits; letters may also be capital. -/
def digit? (c : Char) : Option Nat := digits.idxOf? c.toLower

/-- Whether a character is a digit in a base. -/
def isDigit (base : Nat) (c : Char) : Bool :=
  (digit? c).any (· < base)

/-- The number that digits stand for in a base; what is no digit counts as zero. -/
def value (base : Nat) (digits : List Char) : Nat :=
  Nat.ofDigits base (digits.reverse.map fun c => (digit? c).getD 0)

/-! ## Digits -/

theorem digit?_of_large {c : Char} (large : 0x80 ≤ c.toNat) : digit? c = none := by
  have small : c.toLower = c := by
    rw [Char.toLower, dif_neg]
    intro capital
    have le : c.toNat ≤ 90 := capital.2
    omega
  have ascii : ∀ x ∈ digits, x.toNat < 0x80 := by simp [digits]
  rw [digit?, small, List.idxOf?_eq_none_iff]
  exact fun mem => Nat.not_lt.mpr large (ascii c mem)

theorem isHexDigit_of_large {c : Char} (large : 0x80 ≤ c.toNat) : isHexDigit c = false := by
  rw [Bool.eq_false_iff]
  exact fun isDigit => Nat.not_lt.mpr large (toNat_lt_of_isNameChar (isNameChar_of_isHexDigit isDigit))

/-- The hexadecimal digits are all digits there are. -/
theorem digit?_eq (c : Char) :
    digit? c = if isHexDigit c then some (digitValue c) else none := by
  obtain small | large := Nat.lt_or_ge c.toNat 0x80
  · exact forall_ascii (P := fun c =>
      digit? c = if isHexDigit c then some (digitValue c) else none) (by decide) small
  · rw [digit?_of_large large, isHexDigit_of_large large]
    rfl

theorem digit?_eq_some_iff {c : Char} {n : Nat} :
    digit? c = some n ↔ isHexDigit c ∧ digitValue c = n := by
  rw [digit?_eq]
  split <;> simp_all

theorem getD_digit? (c : Char) : (digit? c).getD 0 = digitValue c := by
  rw [digit?_eq]
  split
  next => rfl
  next noDigit =>
    simp only [isHexDigit, Bool.or_eq_true, Bool.and_eq_true, decide_eq_true_eq, not_or] at noDigit
    obtain ⟨⟨notDecimal, notSmall⟩, notCapital⟩ := noDigit
    rw [digitValue, if_neg notDecimal, if_neg notSmall, if_neg notCapital]
    rfl

theorem digit?_lt {c : Char} {n : Nat} (found : digit? c = some n) : n < 16 := by
  obtain ⟨small, _⟩ := List.idxOf?_eq_some_iff.mp found
  exact small

theorem digitValue_lt (c : Char) : digitValue c < 16 := by
  rw [← getD_digit?]
  cases found : digit? c with
  | none => decide
  | some n => exact digit?_lt found

theorem isDigit_base (radix : Radix) (c : Char) : isDigit radix.base c = radix.isDigit c := by
  obtain small | large := Nat.lt_or_ge c.toNat 0x80
  · exact forall_ascii (P := fun c => isDigit radix.base c = radix.isDigit c)
      (by cases radix <;> decide) small
  · have notHex := isHexDigit_of_large large
    have notDigit : radix.isDigit c = false :=
      Bool.eq_false_iff.mpr fun isDigit => by simp [isHexDigit_of_isDigit isDigit] at notHex
    rw [notDigit, isDigit, digit?_of_large large]
    rfl

theorem areDigits_iff (radix : Radix) {digits : List Char} :
    (∀ c ∈ digits, isDigit radix.base c) ↔ ∀ c ∈ digits, radix.isDigit c := by
  simp only [isDigit_base]

theorem digit?_eq_register {c : Char} (isDigit : isHexDigit c) :
    digit? c = some (Fin.ofNat 16 (digitValue c)).val := by
  rw [digit?_eq, if_pos isDigit, Fin.val_ofNat, Nat.mod_eq_of_lt (digitValue_lt c)]

theorem register_eq {c : Char} {x : Register} (isDigit : digit? c = some x.val) :
    isHexDigit c ∧ Fin.ofNat 16 (digitValue c) = x := by
  obtain ⟨isHex, value⟩ := digit?_eq_some_iff.mp isDigit
  rw [value, Fin.ofNat_val_eq_self]
  exact ⟨isHex, rfl⟩

end Numeral

/-- Going through the digits from the left gives what they stand for. -/
theorem Literal.value_eq (l : Literal) : l.value = Numeral.value l.radix.base l.digits := by
  rw [Literal.value, Numeral.value, Nat.ofDigits_eq_foldr, List.foldr_map, List.foldr_reverse]
  simp [Numeral.getD_digit?, Nat.mul_comm, Nat.add_comm]

end ChipEight.Assembly
