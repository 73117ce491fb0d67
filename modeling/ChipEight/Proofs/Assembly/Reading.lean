import ChipEight.Proofs.Assembly.Characters
import ChipEight.Proofs.Assembly.Reads
import ChipEight.Proofs.Assembly.Spelling

/-!
# Tokens are read

Where the spelling of a token is ahead, behind blanks or not, and a delimiter or nothing follows it,
the token is read and the cursor is moved right behind it. Where something else is ahead, it is not
read.
-/

namespace ChipEight.Assembly

/-- Whether a text begins with a delimiter, if it is not empty. -/
def Ends (text : List Char) : Prop := ∀ x ∈ text.head?, isDelimiter x

theorem ends_cons {x : Char} {text : List Char} (isDelim : isDelimiter x) : Ends (x :: text) := by
  intro y mem
  obtain rfl := Option.some.inj mem
  exact isDelim

theorem Ends.head?_all {text : List Char} (ends : Ends text) {p : Char → Bool}
    (delims : ∀ x, isDelimiter x → p x) :
    text.head?.all p := by
  cases text with
  | nil => rfl
  | cons x text => exact delims x (ends x rfl)

/-- The first character of a text that is neither a blank nor a line end. -/
def next (text : List Char) : Option Char := (text.dropWhile isSeparator).head?

theorem next_append {gap text : List Char} (blank : ∀ x ∈ gap, isSeparator x) :
    next (gap ++ text) = next text := by
  rw [next, List.dropWhile_append_of_pos blank]
  rfl

theorem next_cons {x : Char} {text : List Char} (notSeparator : isSeparator x = false) :
    next (x :: text) = some x := by
  rw [next, List.dropWhile_cons, notSeparator]
  rfl

/-! ## Tokens without delimiters -/

variable {token : Token}

/-- Whether a token is made of characters that are no delimiters. -/
def IsSolid (token : Token) : Prop := token ≠ [] ∧ ∀ x ∈ token, isDelimiter x = false

theorem IsSolid.head?_all (solid : IsSolid token) (rest : List Char) :
    (token ++ rest).head?.all (!isSeparator ·) := by
  obtain ⟨nonempty, noDelimiter⟩ := solid
  cases token with
  | nil => exact absurd rfl nonempty
  | cons x token =>
    have notDelimiter := noDelimiter x List.mem_cons_self
    change (!isSeparator x) = true
    rw [Bool.not_eq_true', Bool.eq_false_iff]
    intro separates
    rw [isDelimiter_of_isSeparator separates] at notDelimiter
    cases notDelimiter

theorem IsSolid.next (solid : IsSolid token) (rest : List Char) :
    next (token ++ rest) = token.head? := by
  have notSeparator := solid.head?_all rest
  cases token with
  | nil => exact absurd rfl solid.1
  | cons x token =>
    apply next_cons
    simpa using notSeparator

theorem isSolid_of_map_capital {word : List Char} (spells : token.map capital = word)
    (nonempty : word ≠ []) (noDelimiter : ∀ x ∈ word, isDelimiter x = false) : IsSolid token := by
  subst spells
  refine ⟨fun nothing => nonempty (by rw [nothing]; rfl), fun x mem => ?_⟩
  exact not_isDelimiter_of_capital rfl (noDelimiter _ (List.mem_map_of_mem mem))

theorem isSolid_of_spellsIndex (spells : token.map capital = ['[', 'I', ']']) : IsSolid token :=
  isSolid_of_map_capital spells (List.cons_ne_nil _ _) (by simp [isDelimiter, delimiters])

theorem SpellsRegister.isSolid {x : Register} (spells : SpellsRegister x token) :
    IsSolid token := by
  obtain ⟨letter, digit, isLetter, isDigit⟩ := spells
  refine ⟨List.cons_ne_nil _ _, ?_⟩
  simp only [List.forall_mem_cons, List.not_mem_nil, false_imp_iff, implies_true, and_true]
  refine ⟨?_, not_isDelimiter_of_isHexDigit (Numeral.register_eq isDigit).1⟩
  obtain rfl | rfl := isLetter <;> decide

theorem isSolid_of_digits {radix : Radix} {digits : List Char} (nonempty : digits ≠ [])
    (areDigits : ∀ x ∈ digits, radix.isDigit x) : IsSolid digits :=
  ⟨nonempty, fun x mem => not_isDelimiter_of_isDigit (areDigits x mem)⟩

theorem isSolid_of_mark {radix : Radix} {mark expected : Char} {digits : List Char}
    (isMark : mark.toLower = expected) (noDelimiter : isDelimiter expected = false)
    (areDigits : ∀ x ∈ digits, radix.isDigit x) :
    IsSolid ('0' :: mark :: digits) := by
  refine ⟨List.cons_ne_nil _ _, ?_⟩
  rw [List.forall_mem_cons, List.forall_mem_cons]
  refine ⟨by decide, not_isDelimiter_of_toLower isMark noDelimiter, fun x mem => ?_⟩
  exact not_isDelimiter_of_isDigit (areDigits x mem)

theorem SpellsLiteral.isSolid {literal : Literal} (spells : SpellsLiteral literal token) :
    IsSolid token := by
  cases spells with
  | decimal _ nonempty areDigits =>
    exact isSolid_of_digits nonempty ((Numeral.areDigits_iff .decimal).mp areDigits)
  | hexadecimal mark digits isMark nonempty areDigits =>
    exact isSolid_of_mark isMark (by decide) ((Numeral.areDigits_iff .hexadecimal).mp areDigits)
  | binary mark digits isMark nonempty areDigits =>
    exact isSolid_of_mark isMark (by decide) ((Numeral.areDigits_iff .binary).mp areDigits)

theorem SpellsName.isSolid {name : String} (spells : SpellsName name token) : IsSolid token := by
  obtain ⟨first, rest, starts, others⟩ := spells
  refine ⟨List.cons_ne_nil _ _, ?_⟩
  rw [List.forall_mem_cons]
  exact ⟨not_isDelimiter_of_isNameChar (isNameChar_of_startsName starts),
    fun x mem => not_isDelimiter_of_isNameChar (others x mem)⟩

theorem SpellsTarget.isSolid {target : Target} (spells : SpellsTarget target token) :
    IsSolid token := by
  cases spells with
  | number spelled => exact spelled.isSolid
  | label spelled => exact spelled.isSolid

namespace Scan

variable {c : Cursor} {gap rest : List Char}

/-! ## Characters -/

theorem span_of_ahead {p : Char → Bool} {taken : List Char} (ahead : c.rest = taken ++ rest)
    (holds : ∀ x ∈ taken, p x) (stops : rest.head?.all (!p ·)) :
    span p c = some (taken, c.move taken rest) := by
  have takes : c.rest.takeWhile p = taken := by
    rw [ahead, List.takeWhile_append_of_pos holds]
    cases rest with
    | nil => simp
    | cons x rest => simp_all
  have drops : c.rest.dropWhile p = rest := by
    rw [ahead, List.dropWhile_append_of_pos holds]
    cases rest with
    | nil => rfl
    | cons x rest => simp_all
  rw [span_eq, takes, drops]

theorem someOf_of_ahead {p : Char → Bool} {taken : List Char} (ahead : c.rest = taken ++ rest)
    (nonempty : taken ≠ []) (holds : ∀ x ∈ taken, p x) (stops : rest.head?.all (!p ·)) :
    someOf p c = some (taken, c.move taken rest) := by
  rw [someOf, bind_of_eq_some _ (span_of_ahead ahead holds stops)]
  cases taken with
  | nil => exact absurd rfl nonempty
  | cons x taken => rfl

theorem someOf_eq_none {p : Char → Bool} (stops : c.rest.head?.all (!p ·)) : someOf p c = none := by
  have found : span p c = some ([], c.move [] c.rest) :=
    span_of_ahead rfl (List.forall_mem_nil _) stops
  rw [someOf, bind_of_eq_some _ found]
  rfl

theorem char_of_ahead {p : Char → Bool} {x : Char} (ahead : c.rest = x :: rest) (holds : p x) :
    char p c = some (x, c.move [x] rest) := (char_eq_some_iff p c _ x).mpr ⟨rest, ahead, holds, rfl⟩

theorem char_eq_none {p : Char → Bool} (fails : ∀ x ∈ c.rest.head?, p x = false) :
    char p c = none := by
  rw [char]
  cases ahead : c.rest with
  | nil => rfl
  | cons x rest =>
    have failsX : p x = false := fails x (by rw [ahead]; rfl)
    simp [failsX]

/-- Blanks in front of a token do not matter. -/
theorem separators_bind {α : Type} (p : Scan α) (blank : ∀ x ∈ gap, isSeparator x)
    (ahead : c.rest = gap ++ rest) (stops : rest.head?.all (!isSeparator ·)) :
    (do separators; p : Scan α) c = p (c.move gap rest) := by
  have passed : separators c = some ((), c.move gap rest) := by
    rw [separators, bind_of_eq_some _ (span_of_ahead ahead blank stops)]
    rfl
  exact bind_of_eq_some _ passed

/-- Where blanks end, the character is the next one. -/
theorem separators_bind_next {α : Type} (p : Scan α) :
    ∃ c', c'.rest.head? = next c.rest ∧ (do separators; p : Scan α) c = p c' := by
  refine ⟨c.move (c.rest.takeWhile isSeparator) (c.rest.dropWhile isSeparator), rfl, ?_⟩
  exact bind_of_eq_some _ (separators_eq c)

/-! ## Tokens -/

theorem symbol_of_ahead {x : Char} (notSeparator : isSeparator x = false)
    (blank : ∀ y ∈ gap, isSeparator y) (ahead : c.rest = gap ++ [x] ++ rest) :
    symbol x c = some ((), c.move (gap ++ [x]) rest) := by
  rw [List.append_assoc] at ahead
  have stops : ([x] ++ rest).head?.all (!isSeparator ·) := by simp [notSeparator]
  have found : char (· == x) (c.move gap ([x] ++ rest)) =
      some (x, (c.move gap ([x] ++ rest)).move [x] rest) :=
    char_of_ahead rfl (beq_iff_eq.mpr rfl)
  rw [symbol, separators_bind _ blank ahead stops, bind_of_eq_some _ found, Cursor.move_move]
  rfl

theorem symbol_eq_none {x : Char} (other : next c.rest ≠ some x) : symbol x c = none := by
  obtain ⟨c', head, same⟩ := separators_bind_next (c := c) (do let _ ← char (· == x))
  rw [symbol, same]
  apply bind_of_eq_none
  apply char_eq_none
  intro y mem
  rw [head] at mem
  rw [beq_eq_false_iff_ne]
  rintro rfl
  exact other mem

theorem letters_of_ahead {word : List Char} (spells : token.map capital = word)
    (ahead : c.rest = token ++ rest) :
    letters word c = some ((), c.move token rest) := by
  induction token generalizing word c with
  | nil =>
    subst spells
    change some ((), c) = some ((), c.move [] rest)
    rw [← show c.rest = rest from ahead, Cursor.move_nil]
  | cons x token ih =>
    subst spells
    have same : (capital x == capital x) = true := beq_iff_eq.mpr rfl
    rw [List.map_cons, letters, bind_of_eq_some _ (char_of_ahead ahead same), ih rfl rfl,
      Cursor.move_move]
    rfl

theorem behind_of_before {p : Char → Bool} (holds : c.before.all p) :
    behind p c = some ((), c) := if_pos holds

theorem ahead_of_ends {p : Char → Bool} (ends : Ends c.rest) (delims : ∀ x, isDelimiter x → p x) :
    Scan.ahead p c = some ((), c) := if_pos (ends.head?_all delims)

theorem keyword_of_ahead {word : String} (solid : IsSolid token)
    (spells : token.map capital = word.toList) (blank : ∀ x ∈ gap, isSeparator x)
    (ahead : c.rest = gap ++ token ++ rest)
    (before : (gap.getLast?.or c.before).all (!isKeywordChar ·)) (ends : Ends rest) :
    keyword word c = some ((), c.move (gap ++ token) rest) := by
  rw [List.append_assoc] at ahead
  have behindThere : behind (!isKeywordChar ·) (c.move gap (token ++ rest)) =
      some ((), c.move gap (token ++ rest)) :=
    behind_of_before before
  rw [keyword, separators_bind _ blank ahead (solid.head?_all rest), bind_of_eq_some _ behindThere,
    bind_of_eq_some _ (letters_of_ahead spells rfl), Cursor.move_move]
  exact ahead_of_ends ends not_isKeywordChar_of_isDelimiter

theorem bracketedIndex_of_ahead (spells : token.map capital = ['[', 'I', ']'])
    (blank : ∀ x ∈ gap, isSeparator x) (ahead : c.rest = gap ++ token ++ rest) :
    bracketedIndex c = some ((), c.move (gap ++ token) rest) := by
  have solid := isSolid_of_spellsIndex spells
  rw [List.append_assoc] at ahead
  rw [bracketedIndex, separators_bind _ blank ahead (solid.head?_all rest),
    letters_of_ahead spells rfl, Cursor.move_move]

theorem letterV_of_ahead {letter : Char} (isLetter : letter = 'V' ∨ letter = 'v')
    (ahead : c.rest = letter :: rest) :
    char (fun c => c == 'V' || c == 'v') c = some (letter, c.move [letter] rest) := by
  have isV : (letter == 'V' || letter == 'v') = true := by simpa using isLetter
  exact char_of_ahead ahead isV

theorem register_of_ahead {x : Register} (spells : SpellsRegister x token)
    (blank : ∀ x ∈ gap, isSeparator x) (ahead : c.rest = gap ++ token ++ rest) (ends : Ends rest) :
    register c = some (x, c.move (gap ++ token) rest) := by
  rw [List.append_assoc] at ahead
  rw [register, separators_bind _ blank ahead (spells.isSolid.head?_all rest),
    ← Cursor.move_move c gap token (token ++ rest)]
  obtain ⟨letter, digit, isLetter, isDigit⟩ := spells
  obtain ⟨isHexDigit, rfl⟩ := Numeral.register_eq isDigit
  have first := letterV_of_ahead (c := c.move gap ([letter, digit] ++ rest)) isLetter rfl
  rw [bind_of_eq_some _ first, bind_of_eq_some _ (char_of_ahead rfl isHexDigit),
    Cursor.move_move _ [letter],
    bind_of_eq_some _ (ahead_of_ends ends not_isWordChar_of_isDelimiter)]
  rfl

theorem registerZero_of_ahead {letter : Char} (isLetter : letter = 'V' ∨ letter = 'v')
    (blank : ∀ x ∈ gap, isSeparator x) (ahead : c.rest = gap ++ [letter, '0'] ++ rest)
    (ends : Ends rest) :
    registerZero c = some ((), c.move (gap ++ [letter, '0']) rest) := by
  have spells : SpellsRegister 0 [letter, '0'] := .intro letter '0' isLetter (by decide)
  rw [List.append_assoc] at ahead
  rw [registerZero, separators_bind _ blank ahead (spells.isSolid.head?_all rest),
    ← Cursor.move_move c gap [letter, '0'] ([letter, '0'] ++ rest)]
  have first : char _ (c.move gap ([letter, '0'] ++ rest)) =
      some (letter, (c.move gap ([letter, '0'] ++ rest)).move [letter] ('0' :: rest)) :=
      letterV_of_ahead isLetter rfl
  have second : char (· == '0') ((c.move gap ([letter, '0'] ++ rest)).move [letter] ('0' :: rest)) =
      some ('0',
        ((c.move gap ([letter, '0'] ++ rest)).move [letter] ('0' :: rest)).move ['0'] rest) :=
    char_of_ahead rfl rfl
  rw [bind_of_eq_some _ first, bind_of_eq_some _ second, Cursor.move_move _ [letter]]
  exact ahead_of_ends ends not_isWordChar_of_isDelimiter

/-! ## Numbers and names -/

theorem marked_of_ahead {mark expected : Char} {radix : Radix} {digits : List Char}
    (isMark : mark.toLower = expected) (noDelimiter : isDelimiter expected = false)
    (nonempty : digits ≠ []) (areDigits : ∀ x ∈ digits, radix.isDigit x)
    (blank : ∀ x ∈ gap, isSeparator x) (ahead : c.rest = gap ++ ('0' :: mark :: digits) ++ rest)
    (ends : Ends rest) :
    marked expected radix c = some (⟨radix, digits⟩,
    c.move (gap ++ ('0' :: mark :: digits)) rest) := by
  have solid : IsSolid ('0' :: mark :: digits) := isSolid_of_mark isMark noDelimiter areDigits
  rw [List.append_assoc] at ahead
  rw [marked, separators_bind _ blank ahead (solid.head?_all rest)]
  have first : char (· == '0') (c.move gap ('0' :: mark :: digits ++ rest)) =
      some ('0',
        (c.move gap ('0' :: mark :: digits ++ rest)).move ['0'] (mark :: digits ++ rest)) :=
    char_of_ahead rfl rfl
  have second : char (fun c => c.toLower == expected)
    (c.move (gap ++ ['0']) (mark :: digits ++ rest)) =
      some (mark, (c.move (gap ++ ['0']) (mark :: digits ++ rest)).move [mark] (digits ++ rest)) :=
    char_of_ahead rfl (beq_iff_eq.mpr isMark)
  have third : someOf radix.isDigit (c.move (gap ++ ['0'] ++ [mark]) (digits ++ rest)) =
      some (digits, (c.move (gap ++ ['0'] ++ [mark]) (digits ++ rest)).move digits rest) := by
    exact someOf_of_ahead rfl nonempty areDigits (ends.head?_all not_isDigit_of_isDelimiter)
  rw [bind_of_eq_some _ first, Cursor.move_move, bind_of_eq_some _ second, Cursor.move_move,
    bind_of_eq_some _ third, Cursor.move_move]
  simp only [List.append_assoc]
  rfl

/-- There is no mark where the character behind the first one is none. -/
theorem marked_eq_none {expected : Char} {radix : Radix} {x : Char}
    (notSeparator : isSeparator x = false) (blank : ∀ x ∈ gap, isSeparator x)
    (ahead : c.rest = gap ++ x :: rest)
    (other : ∀ y ∈ rest.head?, (y.toLower == expected) = false) :
    marked expected radix c = none := by
  have stops : (x :: rest).head?.all (!isSeparator ·) := by simp [notSeparator]
  rw [marked, separators_bind _ blank ahead stops]
  cases zero : x == '0' with
  | false =>
    apply bind_of_eq_none
    apply char_eq_none
    intro y mem
    obtain rfl := Option.some.inj mem
    exact zero
  | true =>
    have first : char (· == '0') (c.move gap (x :: rest)) =
        some (x, (c.move gap (x :: rest)).move [x] rest) :=
      char_of_ahead rfl zero
    rw [bind_of_eq_some _ first]
    apply bind_of_eq_none
    exact char_eq_none other

theorem orElse_of_eq_some {α : Type} {p : Scan α} (q : Scan α) {result : α × Cursor}
    (found : p c = some result) :
    (p <|> q) c = some result := by
  change (p c <|> q c) = _
  rw [found]
  rfl

theorem orElse_of_eq_none {α : Type} {p : Scan α} (q : Scan α) (missing : p c = none) :
    (p <|> q) c = q c := by
  change (p c <|> q c) = _
  rw [missing]
  rfl

theorem map_of_eq_some {α β : Type} {p : Scan α} (f : α → β) {a : α} {c' : Cursor}
    (found : p c = some (a, c')) :
    (f <$> p) c = some (f a, c') := bind_of_eq_some (fun a => pure (f a)) found

theorem map_of_eq_none {α β : Type} {p : Scan α} (f : α → β) (missing : p c = none) :
    (f <$> p) c = none :=
  bind_of_eq_none (fun a => pure (f a)) missing

theorem not_isSeparator_of_isDigit {radix : Radix} {x : Char} (isDigit : radix.isDigit x) :
    isSeparator x = false := by
  rw [Bool.eq_false_iff]
  intro separates
  have notDelimiter := not_isDelimiter_of_isDigit isDigit
  rw [isDelimiter_of_isSeparator separates] at notDelimiter
  cases notDelimiter

/-- A decimal digit and what ends a number are both no marks. -/
theorem not_mark {expected : Char} (noDelimiter : isDelimiter expected = false)
    (noDigit : expected.isDigit = false) {digits : List Char}
    (areDigits : ∀ x ∈ digits, Radix.decimal.isDigit x) (ends : Ends rest) :
    ∀ y ∈ (digits ++ rest).head?, (y.toLower == expected) = false := by
  intro y mem
  rw [beq_eq_false_iff_ne]
  rintro rfl
  cases digits with
  | nil =>
    have isDelim := ends y mem
    rw [not_isDelimiter_of_toLower rfl noDelimiter] at isDelim
    cases isDelim
  | cons x digits =>
    obtain rfl := Option.some.inj mem
    have isDigit : x.isDigit := areDigits x List.mem_cons_self
    rw [toLower_of_isDigit isDigit, isDigit] at noDigit
    cases noDigit

theorem number_of_ahead {literal : Literal} (spells : SpellsLiteral literal token)
    (blank : ∀ x ∈ gap, isSeparator x) (ahead : c.rest = gap ++ token ++ rest) (ends : Ends rest) :
    number c = some (literal, c.move (gap ++ token) rest) := by
  cases spells with
  | hexadecimal mark digits isMark nonempty areDigits =>
    have areDigits := (Numeral.areDigits_iff .hexadecimal).mp areDigits
    exact orElse_of_eq_some _ (marked_of_ahead isMark (by decide) nonempty areDigits blank ahead
      ends)
  | binary mark digits isMark nonempty areDigits =>
    have areDigits := (Numeral.areDigits_iff .binary).mp areDigits
    have notHexadecimal : marked 'x' .hexadecimal c = none := by
      rw [List.append_assoc] at ahead
      refine marked_eq_none (x := '0') (by decide) blank ahead fun y mem => ?_
      obtain rfl := Option.some.inj mem
      rw [isMark]
      rfl
    rw [number, orElse_of_eq_none _ notHexadecimal]
    exact orElse_of_eq_some _ (marked_of_ahead isMark (by decide) nonempty areDigits blank ahead
      ends)
  | decimal digits nonempty areDigits =>
    have areDigits := (Numeral.areDigits_iff .decimal).mp areDigits
    have solid : IsSolid token := isSolid_of_digits nonempty areDigits
    rw [List.append_assoc] at ahead
    -- Both marks are tried first. What follows a leading zero is a digit or a delimiter, and
    -- neither is a mark.
    have unmarked (expected : Char) (radix : Radix) (noDelimiter : isDelimiter expected = false)
        (noDigit : expected.isDigit = false) : marked expected radix c = none := by
      cases token with
      | nil => exact absurd rfl nonempty
      | cons x digits =>
        obtain ⟨first, others⟩ := List.forall_mem_cons.mp areDigits
        exact marked_eq_none (not_isSeparator_of_isDigit first) blank ahead
          (not_mark noDelimiter noDigit others ends)
    rw [number, orElse_of_eq_none _ (unmarked 'x' _ (by decide) (by decide)),
      orElse_of_eq_none _ (unmarked 'b' _ (by decide) (by decide)),
      separators_bind _ blank ahead (solid.head?_all rest)]
    have stops : rest.head?.all (!Radix.decimal.isDigit ·) :=
      ends.head?_all not_isDigit_of_isDelimiter
    rw [bind_of_eq_some _ (someOf_of_ahead rfl nonempty areDigits stops), Cursor.move_move]
    rfl

theorem name_of_ahead {word : String} (spells : SpellsName word token)
    (blank : ∀ x ∈ gap, isSeparator x) (ahead : c.rest = gap ++ token ++ rest) (ends : Ends rest) :
    name c = some (word, c.move (gap ++ token) rest) := by
  rw [List.append_assoc] at ahead
  rw [name, separators_bind _ blank ahead (spells.isSolid.head?_all rest),
    ← Cursor.move_move c gap token (token ++ rest)]
  obtain ⟨first, others, starts, areNameChars⟩ := spells
  have foundFirst : char startsName (c.move gap (first :: others ++ rest)) =
      some (first, (c.move gap (first :: others ++ rest)).move [first] (others ++ rest)) :=
      char_of_ahead rfl starts
  have areOthers : ∀ x ∈ others, isNameChar x := areNameChars
  have stops : rest.head?.all (!isNameChar ·) := ends.head?_all not_isNameChar_of_isDelimiter
  rw [bind_of_eq_some _ foundFirst, bind_of_eq_some _ (span_of_ahead rfl areOthers stops),
    Cursor.move_move _ [first]]
  rfl

theorem separators_char_eq_none {α : Type} {p : Char → Bool} (continue_ : Char → Scan α)
    (other : ∀ x ∈ next c.rest, p x = false) :
    (do separators; let x ← char p; continue_ x : Scan α) c = none := by
  obtain ⟨c', head, same⟩ := separators_bind_next (c := c) (do let x ← char p; continue_ x)
  rw [same]
  apply bind_of_eq_none
  apply char_eq_none
  rwa [head]

theorem number_eq_none (other : ∀ x ∈ next c.rest, x.isDigit = false) : number c = none := by
  have notZero : ∀ x ∈ next c.rest, (x == '0') = false := by
    intro x mem
    rw [beq_eq_false_iff_ne]
    rintro rfl
    exact absurd (other '0' mem) (by decide)
  have unmarked (expected : Char) (radix : Radix) : marked expected radix c = none :=
    separators_char_eq_none _ notZero
  rw [number, orElse_of_eq_none _ (unmarked 'x' _), orElse_of_eq_none _ (unmarked 'b' _)]
  obtain ⟨c', head, same⟩ :=
      separators_bind_next (c := c) (do return Literal.mk .decimal (← someOf Radix.decimal.isDigit))
  rw [same]
  apply bind_of_eq_none
  apply someOf_eq_none
  rw [head]
  cases here : next c.rest with
  | none => rfl
  | some x =>
    have notDigit : Radix.decimal.isDigit x = false := other x here
    simp [notDigit]

theorem name_eq_none (other : ∀ x ∈ next c.rest, startsName x = false) : name c = none :=
  separators_char_eq_none _ other

theorem register_eq_none (other : ∀ x ∈ next c.rest, (x == 'V' || x == 'v') = false) :
    register c = none :=
  separators_char_eq_none _ other

theorem registerZero_eq_none (other : ∀ x ∈ next c.rest, (x == 'V' || x == 'v') = false) :
    registerZero c = none :=
  separators_char_eq_none _ other

theorem comment_eq_none (other : next c.rest ≠ some '/') : comment c = none := by
  apply separators_char_eq_none
  intro x mem
  rw [beq_eq_false_iff_ne]
  rintro rfl
  exact other mem

theorem target_of_ahead {target : Target} (spells : SpellsTarget target token)
    (blank : ∀ x ∈ gap, isSeparator x) (ahead : c.rest = gap ++ token ++ rest) (ends : Ends rest) :
    Scan.target c = some (target, c.move (gap ++ token) rest) := by
  cases spells with
  | number spelled =>
    exact orElse_of_eq_some _ (map_of_eq_some _ (number_of_ahead spelled blank ahead ends))
  | label spelled =>
    have noNumber : number c = none := by
      apply number_eq_none
      intro x mem
      rw [ahead, List.append_assoc, next_append blank, spelled.isSolid.next] at mem
      obtain ⟨first, others, starts, areNameChars⟩ := spelled
      obtain rfl := Option.some.inj mem
      exact isDigit_eq_false_of_startsName starts
    rw [Scan.target, orElse_of_eq_none _ (map_of_eq_none _ noNumber)]
    exact map_of_eq_some _ (name_of_ahead spelled blank ahead ends)

/-! ## Other words -/

/-- Looking back either fails or changes nothing. -/
theorem behind_bind {α : Type} (p : Char → Bool) (q : Scan α) (missing : q c = none) :
    (do behind p; q : Scan α) c = none := by
  by_cases holds : c.before.all p
  · rw [bind_of_eq_some _ (behind_of_before holds), missing]
  · exact bind_of_eq_none _ (if_neg holds)

/-- There is no keyword where the next character does not begin it. -/
theorem keyword_eq_none {word : String} {first : Char} {others : List Char}
    (isWord : word.toList = first :: others) (other : ∀ x ∈ next c.rest, capital x ≠ first) :
    keyword word c = none := by
  obtain ⟨c', head, same⟩ := separators_bind_next (c := c)
    (do behind (!isKeywordChar ·); letters word.toList; Scan.ahead (!isKeywordChar ·))
  rw [keyword, same]
  apply behind_bind
  rw [isWord, letters]
  apply bind_of_eq_none
  apply bind_of_eq_none
  apply char_eq_none
  intro x mem
  rw [beq_eq_false_iff_ne]
  exact other x (head ▸ mem)

/-- A word is not read as another keyword, not even if one begins like the other. -/
theorem letters_ahead_eq_none {word : List Char} (noDelimiter : ∀ x ∈ word, isDelimiter x = false)
    (keywordChars : ∀ x ∈ token, isKeywordChar x) (different : token.map capital ≠ word)
    (ahead : c.rest = token ++ rest) (ends : Ends rest) :
    (do letters word; Scan.ahead (!isKeywordChar ·) : Scan Unit) c = none := by
  -- Token and keyword are compared letter by letter. They differ in a letter, or one of them goes
  -- on where the other ends.
  induction token generalizing word c with
  | nil =>
    cases word with
    | nil => exact absurd rfl different
    | cons first word =>
      apply bind_of_eq_none
      apply bind_of_eq_none
      apply char_eq_none
      intro x mem
      rw [beq_eq_false_iff_ne]
      rintro rfl
      have isDelim : isDelimiter x := ends x (by rwa [ahead] at mem)
      have notDelimiter := not_isDelimiter_of_capital rfl (noDelimiter _ List.mem_cons_self)
      rw [isDelim] at notDelimiter
      cases notDelimiter
  | cons x token ih =>
    obtain ⟨isKeyword, areKeyword⟩ := List.forall_mem_cons.mp keywordChars
    cases word with
    | nil =>
      have nothing : letters [] c = some ((), c) := rfl
      rw [bind_of_eq_some _ nothing]
      refine if_neg ?_
      rw [ahead]
      simp [isKeyword]
    | cons first word =>
      cases same : capital x == first with
      | false =>
        apply bind_of_eq_none
        apply bind_of_eq_none
        apply char_eq_none
        intro y mem
        rw [ahead] at mem
        obtain rfl := Option.some.inj mem
        exact same
      | true =>
        have found : char (capital · == first) c = some (x, c.move [x] (token ++ rest)) :=
          char_of_ahead ahead same
        have differentThen : token.map capital ≠ word := by
          rintro rfl
          rw [beq_iff_eq] at same
          exact different (by rw [List.map_cons, same])
        have step : (do letters (first :: word); Scan.ahead (!isKeywordChar ·) : Scan Unit) c =
            (do letters word; Scan.ahead (!isKeywordChar ·) : Scan Unit)
            (c.move [x] (token ++ rest)) :=
          bind_of_eq _ (bind_of_eq_some _ found)
        rw [step]
        exact ih (fun y mem => noDelimiter y (List.mem_cons_of_mem _ mem)) areKeyword differentThen
          rfl

theorem keyword_eq_none_of_ne {word : String} (solid : IsSolid token)
    (noDelimiter : ∀ x ∈ word.toList, isDelimiter x = false)
    (keywordChars : ∀ x ∈ token, isKeywordChar x) (different : token.map capital ≠ word.toList)
    (blank : ∀ x ∈ gap, isSeparator x) (ahead : c.rest = gap ++ token ++ rest) (ends : Ends rest) :
    keyword word c = none := by
  rw [List.append_assoc] at ahead
  rw [keyword, separators_bind _ blank ahead (solid.head?_all rest)]
  apply behind_bind
  exact letters_ahead_eq_none noDelimiter keywordChars different rfl ends

end Scan

end ChipEight.Assembly
