import ChipEight.Assembly.Token

/-!
# Characters of tokens

A token is made of characters that are no delimiters, and a delimiter behind it keeps it from
running on. What each kind of character is made of is checked on the seven delimiters.
-/

namespace ChipEight.Assembly

/-- The characters that no keyword, register, number or name holds and that may stand right behind
    one. -/
def delimiters : List Char := [' ', '\n', '\t', '\r', ',', ':', '/']

/-- Whether a character is one of the delimiters. -/
def isDelimiter (c : Char) : Bool := delimiters.contains c

theorem mem_of_isDelimiter {c : Char} (h : isDelimiter c) :
    c ∈ delimiters := List.contains_iff_mem.mp h

theorem isDelimiter_of_isSeparator {c : Char} (h : isSeparator c) : isDelimiter c := by
  simp only [isSeparator, Bool.or_eq_true, beq_iff_eq] at h
  obtain ((rfl | rfl) | rfl) | rfl := h <;> decide

/-- What has been checked on the delimiters holds of whatever is one. -/
theorem holds_of_isDelimiter {p : Char → Bool} (checked : delimiters.all p) (c : Char)
    (h : isDelimiter c) : p c :=
  List.all_eq_true.mp checked c (mem_of_isDelimiter h)

/-! ## What delimiters are not -/

theorem not_isKeywordChar_of_isDelimiter :
    ∀ x, isDelimiter x → !isKeywordChar x := holds_of_isDelimiter (by decide)

theorem not_isWordChar_of_isDelimiter :
    ∀ x, isDelimiter x → !Text.isWordChar x := holds_of_isDelimiter (by decide)

theorem not_isNameChar_of_isDelimiter :
    ∀ x, isDelimiter x → !isNameChar x := holds_of_isDelimiter (by decide)

theorem isNameChar_of_isDelimiter {c : Char} (h : isDelimiter c) : isNameChar c = false :=
  (Bool.not_eq_true' _).mp (not_isNameChar_of_isDelimiter c h)

theorem isHexDigit_of_isDelimiter {c : Char} (h : isDelimiter c) : isHexDigit c = false := by
  have holds : !isHexDigit c := holds_of_isDelimiter (p := (!isHexDigit ·)) (by decide) c h
  exact (Bool.not_eq_true' _).mp holds

theorem capital_of_isDelimiter {c : Char} (h : isDelimiter c) : capital c = c := by
  have holds : capital c == c := holds_of_isDelimiter (p := fun c => capital c == c) (by decide) c h
  exact beq_iff_eq.mp holds

theorem toLower_of_isDelimiter {c : Char} (h : isDelimiter c) : c.toLower = c := by
  have holds : c.toLower == c := holds_of_isDelimiter (p := fun c => c.toLower == c) (by decide) c h
  exact beq_iff_eq.mp holds

/-! ## What is no delimiter -/

theorem not_isDelimiter_of_capital {c x : Char} (same : capital c = x)
    (notX : isDelimiter x = false) :
    isDelimiter c = false := by
  rw [Bool.eq_false_iff]
  intro isDelim
  rw [← same, capital_of_isDelimiter isDelim, isDelim] at notX
  cases notX

theorem not_isDelimiter_of_toLower {c x : Char} (same : c.toLower = x)
    (notX : isDelimiter x = false) :
    isDelimiter c = false := by
  rw [Bool.eq_false_iff]
  intro isDelim
  rw [← same, toLower_of_isDelimiter isDelim, isDelim] at notX
  cases notX

theorem not_isDelimiter_of_isNameChar {c : Char} (h : isNameChar c) : isDelimiter c = false := by
  rw [Bool.eq_false_iff]
  intro isDelim
  rw [isNameChar_of_isDelimiter isDelim] at h
  cases h

theorem not_isDelimiter_of_isHexDigit {c : Char} (h : isHexDigit c) : isDelimiter c = false := by
  rw [Bool.eq_false_iff]
  intro isDelim
  rw [isHexDigit_of_isDelimiter isDelim] at h
  cases h

theorem not_isDelimiter_of_isUpper {c : Char} (h : c.isUpper) : isDelimiter c = false := by
  rw [Bool.eq_false_iff]
  intro isDelim
  have notUpper : !c.isUpper := holds_of_isDelimiter (p := (!Char.isUpper ·)) (by decide) c isDelim
  rw [h] at notUpper
  cases notUpper

/-! ## Digits, names and keywords -/

theorem isHexDigit_of_isDigit {radix : Radix} {c : Char} (h : radix.isDigit c) : isHexDigit c := by
  cases radix with
  | decimal => exact Bool.or_eq_true_iff.mpr (.inl (Bool.or_eq_true_iff.mpr (.inl h)))
  | hexadecimal => exact h
  | binary =>
    simp only [Radix.isDigit, Bool.or_eq_true, beq_iff_eq] at h
    obtain rfl | rfl := h <;> decide

theorem not_isDelimiter_of_isDigit {radix : Radix} {c : Char} (h : radix.isDigit c) :
    isDelimiter c = false :=
  not_isDelimiter_of_isHexDigit (isHexDigit_of_isDigit h)

theorem not_isDigit_of_isDelimiter {radix : Radix} (x : Char) (isDelim : isDelimiter x) :
    !radix.isDigit x := by
  rw [Bool.not_eq_true', Bool.eq_false_iff]
  intro isDigit
  have notDelimiter := not_isDelimiter_of_isDigit isDigit
  rw [isDelim] at notDelimiter
  cases notDelimiter

theorem isNameChar_of_startsName {c : Char} (h : startsName c) : isNameChar c := by
  simp only [startsName, isNameChar, Char.isAlphanum, Bool.or_eq_true] at h ⊢
  obtain letter | underscore := h
  · exact .inl (.inl letter)
  · exact .inr underscore

theorem toNat_lt_of_isNameChar {c : Char} (h : isNameChar c) : c.toNat < 0x80 := by
  obtain alphanumeric | underscore := Bool.or_eq_true_iff.mp h
  · exact Text.toNat_lt_of_isAlphanum c alphanumeric
  · obtain rfl := beq_iff_eq.mp underscore
    decide

theorem forall_ascii {P : Char → Prop} (ascii : ∀ n < 0x80, P (Char.ofNat n)) {c : Char}
    (small : c.toNat < 0x80) : P c := by
  have holds := ascii c.toNat small
  rwa [Char.ofNat_toNat] at holds

/-- What holds of all characters of ASCII that a name may hold holds of all that a name may hold. -/
theorem forall_isNameChar {P : Char → Prop}
    (ascii : ∀ n < 0x80, isNameChar (Char.ofNat n) → P (Char.ofNat n)) {c : Char}
    (h : isNameChar c) : P c :=
  forall_ascii (P := fun c => isNameChar c → P c) ascii (toNat_lt_of_isNameChar h) h

theorem isKeywordChar_of_isNameChar {c : Char} (h : isNameChar c) : isKeywordChar c :=
  forall_isNameChar (P := fun c => isKeywordChar c) (by decide) h

theorem isWordChar_of_isNameChar {c : Char} (h : isNameChar c) : Text.isWordChar c :=
  forall_isNameChar (P := fun c => Text.isWordChar c) (by decide) h

theorem isDigit_eq_false_of_startsName {c : Char} (h : startsName c) : c.isDigit = false :=
  forall_isNameChar (P := fun c => startsName c → c.isDigit = false) (by decide)
  (isNameChar_of_startsName h) h

theorem isNameChar_of_isDigit {c : Char} (h : c.isDigit) : isNameChar c := by
  simp [isNameChar, Char.isAlphanum, h]

theorem toLower_of_isDigit {c : Char} (h : c.isDigit) : c.toLower = c :=
  forall_isNameChar (P := fun c => c.isDigit → c.toLower = c) (by decide) (isNameChar_of_isDigit h)
  h

end ChipEight.Assembly
