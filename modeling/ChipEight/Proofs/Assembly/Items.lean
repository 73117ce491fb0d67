import ChipEight.Proofs.Assembly.Choice

/-!
# Labels and comments are read

A label is read where it is spelled and a comment up to the end of its line. A command is not taken
for a label, and a label not for a command unless it is called like one that has no operands. So
what comes next in a text decides how far a statement gets.
-/

namespace ChipEight.Assembly

/-- Whether a text is at the end of a line. -/
def EndsLine (text : List Char) : Prop := ∀ x ∈ text.head?, x = '\n'

/-- Whether a token is no command by itself. -/
def NotCommand (token : Token) : Prop := ¬ SpellsWord "CLS" token ∧ ¬ SpellsWord "RET" token
  deriving Decidable

theorem EndsLine.ends {text : List Char} (endsLine : EndsLine text) : Ends text := by
  intro x mem
  rw [endsLine x mem]
  decide

theorem SpellsName.isKeywordChar {name : String} {token : Token} (spells : SpellsName name token) :
    ∀ x ∈ token, isKeywordChar x := by
  obtain ⟨first, others, starts, areNameChars⟩ := spells
  rw [List.forall_mem_cons]
  exact ⟨isKeywordChar_of_isNameChar (isNameChar_of_startsName starts),
    fun x mem => isKeywordChar_of_isNameChar (areNameChars x mem)⟩

theorem kind_of_spellsMore {literals : List Literal} {tokens : List Token}
    (spells : SpellsMore literals tokens) :
    ∀ token ∈ tokens, IsSolid token ∨ token = [','] := by
  induction spells with
  | nil => exact List.forall_mem_nil _
  | cons spelled _ ih =>
    rw [List.forall_mem_cons, List.forall_mem_cons]
    exact ⟨.inr rfl, .inl spelled.isSolid, ih⟩

theorem kind_of_spells {α : Type} {ps : List Piece} {build : Builder α ps} {tokens : List Token}
    {a : α} (spells : Spells ps build tokens a) (proper : ∀ p ∈ ps, p.isProper) :
    ∀ token ∈ tokens, IsSolid token ∨ token = [','] := by
  induction spells with
  | nil => exact List.forall_mem_nil _
  | word spelled _ ih =>
    obtain ⟨first, others⟩ := List.forall_mem_cons.mp proper
    exact List.forall_mem_cons.mpr ⟨.inl (isSolid_of_keyword first spelled), ih others⟩
  | comma _ ih =>
    exact List.forall_mem_cons.mpr ⟨.inr rfl, ih (List.forall_mem_cons.mp proper).2⟩
  | memory spelled _ ih =>
    have solid := isSolid_of_spellsIndex spelled
    exact List.forall_mem_cons.mpr ⟨.inl solid, ih (List.forall_mem_cons.mp proper).2⟩
  | @registerZero _ _ _ _ letter isLetter _ ih =>
    have spelled : SpellsRegister 0 [letter, '0'] := .intro letter '0' isLetter (by decide)
    exact List.forall_mem_cons.mpr ⟨.inl spelled.isSolid, ih (List.forall_mem_cons.mp proper).2⟩
  | register spelled _ ih =>
    exact List.forall_mem_cons.mpr ⟨.inl spelled.isSolid, ih (List.forall_mem_cons.mp proper).2⟩
  | omitted _ ih => exact ih (List.forall_mem_cons.mp proper).2
  | given spelled _ ih =>
    rw [List.forall_mem_cons, List.forall_mem_cons]
    exact ⟨.inr rfl, .inl spelled.isSolid, ih (List.forall_mem_cons.mp proper).2⟩
  | number spelled _ ih =>
    exact List.forall_mem_cons.mpr ⟨.inl spelled.isSolid, ih (List.forall_mem_cons.mp proper).2⟩
  | target spelled _ ih =>
    exact List.forall_mem_cons.mpr ⟨.inl spelled.isSolid, ih (List.forall_mem_cons.mp proper).2⟩
  | numbers spelled spelledMore _ ih =>
    rw [List.forall_mem_cons, List.forall_mem_append]
    exact ⟨.inl spelled.isSolid, kind_of_spellsMore spelledMore,
      ih (List.forall_mem_cons.mp proper).2⟩

theorem Command.Spelled.kind {command : Command} {tokens : List Token}
    (spelled : command.Spelled tokens) :
    ∀ token ∈ tokens, IsSolid token ∨ token = [','] := by
  obtain ⟨f, mem, spells⟩ := Command.spelled_iff.mp spelled
  exact kind_of_spells spells (proper_forms f mem).1

/-- Whether pieces begin with a keyword, and one that is a command by itself if there are no other
    pieces. -/
def isHeaded : List Piece → Bool
  | [.word word] => word == "CLS" || word == "RET"
  | .word _ :: q :: _ => q != .optionalRegister
  | _ => false

theorem headed_forms : ∀ f ∈ Form.all, isHeaded f.pieces := by decide

theorem exists_word_of_isHeaded {ps : List Piece} (headed : isHeaded ps) :
    ∃ word qs, ps = .word word :: qs := by
  match ps, headed with
  | [.word word], _ => exact ⟨word, [], rfl⟩
  | .word word :: q :: qs, _ => exact ⟨word, q :: qs, rfl⟩

theorem Command.Spelled.head {command : Command} {tokens : List Token}
    (spelled : command.Spelled tokens) :
    ∃ token others, tokens = token :: others ∧ IsSolid token := by
  obtain ⟨⟨pieces, build⟩, mem, spells⟩ := Command.spelled_iff.mp spelled
  obtain ⟨word, qs, rfl⟩ := exists_word_of_isHeaded (headed_forms _ mem)
  cases spells with
  | @word _ _ others _ _ token isWord _ =>
    have proper := (proper_forms _ mem).1 (.word word) List.mem_cons_self
    exact ⟨token, others, rfl, isSolid_of_keyword proper isWord⟩

theorem Spaced.next_ne_colon {tokens : List Token} {text rest : List Char} {tight : Bool}
    (spaced : Spaced tight tokens text) (kind : ∀ token ∈ tokens, IsSolid token ∨ token = [','])
    (noColon : next rest ≠ some ':') : next (text ++ rest) ≠ some ':' := by
  cases spaced with
  | nil => exact noColon
  | @cons _ token tokens text gap blank apart others =>
    rw [List.append_assoc, List.append_assoc, next_append blank]
    obtain solid | rfl := kind token List.mem_cons_self
    · rw [solid.next]
      intro isColon
      exact absurd (solid.2 ':' (List.mem_of_head? isColon)) (by decide)
    · rw [show next ([','] ++ (text ++ rest)) = some ',' from next_cons (by decide)]
      decide

/-- A name with its colon ends where the colon or a blank in front of it begins. -/
theorem ends_of_label {tight : Bool} {text : List Char} (spaced : Spaced tight [[':']] text)
    (rest : List Char) :
    Ends (text ++ rest) := by
  obtain _ | @⟨_, _, _, _, gap, blank, _, nothing⟩ := spaced
  cases nothing
  cases gap with
  | nil => exact ends_cons (by decide)
  | cons x gap => exact ends_cons (isDelimiter_of_isSeparator (blank x List.mem_cons_self))

theorem next_of_label {tight : Bool} {text : List Char} (spaced : Spaced tight [[':']] text)
    (rest : List Char) :
    next (text ++ rest) = some ':' := by
  obtain _ | @⟨_, _, _, _, gap, blank, _, nothing⟩ := spaced
  cases nothing
  rw [List.append_nil, List.append_assoc, next_append blank]
  exact next_cons (by decide)

namespace Scan

variable {c : Cursor} {gap text rest : List Char} {token : Token}

/-! ## Labels -/

theorem label_of_ahead {name : String} (spells : SpellsName name token) {tight : Bool}
    (spaced : Spaced tight [token, [':']] text) (ahead : c.rest = text ++ rest) :
    label c = some (name, c.move text rest) := by
  obtain _ | @⟨_, _, _, text, gap, blank, _, spaced⟩ := spaced
  rw [List.append_assoc] at ahead
  have foundName := name_of_ahead spells blank ahead (ends_of_label spaced rest)
  obtain _ | @⟨_, _, _, _, gap', blank', _, nothing⟩ := spaced
  cases nothing
  rw [List.append_nil] at foundName ⊢
  have foundColon :=
      symbol_of_ahead (c := c.move (gap ++ token) (gap' ++ [':'] ++ rest)) (by decide) blank' rfl
  rw [label, bind_of_eq_some _ foundName, bind_of_eq_some _ foundColon, Cursor.move_move]
  rfl

theorem label_eq_none (other : ∀ x ∈ next c.rest, startsName x = false) : label c = none :=
  bind_of_eq_none _ (name_eq_none other)

/-- No word is read as a label that is not followed by a colon. -/
theorem label_eq_none_of_word (solid : IsSolid token) (blank : ∀ x ∈ gap, isSeparator x)
    (ahead : c.rest = gap ++ token ++ rest) (ends : Ends rest) (noColon : next rest ≠ some ':') :
    label c = none := by
  cases found : name c with
  | none => exact bind_of_eq_none _ found
  | some result =>
    obtain ⟨word, c'⟩ := result
    rw [label, bind_of_eq_some _ found]
    apply bind_of_eq_none
    apply symbol_eq_none
    rw [List.append_assoc] at ahead
    rw [name, separators_bind _ blank ahead (solid.head?_all rest)] at found
    obtain ⟨first, c₁, foundFirst, found⟩ := (bind_eq_some_iff _ _ _ c' word).mp found
    obtain ⟨taken, c₂, foundOthers, done⟩ := (bind_eq_some_iff _ _ _ c' word).mp found
    obtain ⟨_, rfl⟩ := Prod.mk.inj (Option.some.inj done)
    obtain ⟨rest₁, isFirst, _, rfl⟩ := (char_eq_some_iff _ _ _ _).mp foundFirst
    rw [span_eq] at foundOthers
    obtain ⟨_, rfl⟩ := Prod.mk.inj (Option.some.inj foundOthers)
    change token ++ rest = first :: rest₁ at isFirst
    change next (rest₁.dropWhile isNameChar) ≠ some ':'
    obtain ⟨nonempty, noDelimiter⟩ := solid
    cases token with
    | nil => exact absurd rfl nonempty
    | cons x others =>
      obtain ⟨rfl, rfl⟩ := List.cons.inj isFirst
      change next ((others ++ rest).dropWhile isNameChar) ≠ some ':'
      rw [List.dropWhile_append]
      cases left : others.dropWhile isNameChar with
      | nil =>
        have stops : rest.dropWhile isNameChar = rest := by
          cases rest with
          | nil => rfl
          | cons y rest =>
            rw [List.dropWhile_cons, isNameChar_of_isDelimiter (ends y rfl)]
            rfl
        rw [List.isEmpty_nil, if_pos rfl, stops]
        exact noColon
      | cons y left' =>
        have mem : y ∈ others := (List.dropWhile_sublist _).subset (left ▸ List.mem_cons_self)
        have notDelimiter := noDelimiter y (List.mem_cons_of_mem _ mem)
        have notSeparator : isSeparator y = false := by
          rw [Bool.eq_false_iff]
          intro separates
          rw [isDelimiter_of_isSeparator separates] at notDelimiter
          cases notDelimiter
        rw [List.isEmpty_cons, if_neg (by decide), List.cons_append, next_cons notSeparator]
        rintro ⟨⟩
        exact absurd notDelimiter (by decide)

/-- A command is not read as a label, if what comes after it is no colon. -/
theorem label_eq_none_of_command {command : Command} {tokens : List Token}
    (spells : command.Spelled tokens) {tight : Bool} (spaced : Spaced tight tokens text)
    (ahead : c.rest = text ++ rest) (ends : Ends rest) (noColon : next rest ≠ some ':') :
    label c = none := by
  have kind := spells.kind
  obtain ⟨token, others, rfl, solid⟩ := spells.head
  obtain _ | @⟨_, _, _, text, gap, blank, _, spaced⟩ := spaced
  rw [solid.isMark_eq_false] at spaced
  rw [List.append_assoc] at ahead
  exact label_eq_none_of_word solid blank ahead (spaced.ends ends)
    (spaced.next_ne_colon (List.forall_mem_cons.mp kind).2 noColon)

/-! ## Comments -/

theorem comment_of_ahead (blank : ∀ x ∈ gap, isSeparator x) (inLine : '\n' ∉ text)
    (ahead : c.rest = gap ++ '/' :: '/' :: text ++ rest) (endsLine : EndsLine rest) :
    comment c = some ((), c.move (gap ++ '/' :: '/' :: text) rest) := by
  rw [List.append_assoc] at ahead
  have stops : ('/' :: '/' :: text ++ rest).head?.all (!isSeparator ·) := rfl
  have first : char (· == '/') (c.move gap ('/' :: '/' :: text ++ rest)) =
      some ('/', (c.move gap ('/' :: '/' :: text ++ rest)).move ['/'] ('/' :: text ++ rest)) :=
      char_of_ahead rfl rfl
  have second : char (· == '/') (c.move (gap ++ ['/']) ('/' :: text ++ rest)) =
      some ('/', (c.move (gap ++ ['/']) ('/' :: text ++ rest)).move ['/'] (text ++ rest)) :=
      char_of_ahead rfl rfl
  have third : span (· != '\n') (c.move (gap ++ ['/'] ++ ['/']) (text ++ rest)) =
      some (text, (c.move (gap ++ ['/'] ++ ['/']) (text ++ rest)).move text rest) := by
    refine span_of_ahead rfl (fun x mem => bne_iff_ne.mpr fun lineEnd => inLine (lineEnd ▸ mem)) ?_
    cases here : rest.head? with
    | none => rfl
    | some x =>
      rw [endsLine x here]
      rfl
  rw [comment, separators_bind _ blank ahead stops, bind_of_eq_some _ first, Cursor.move_move,
    bind_of_eq_some _ second, Cursor.move_move, bind_of_eq_some _ third, Cursor.move_move]
  simp only [List.append_assoc]
  rfl

/-! ## What is no command -/

/-- There is no command where there is no word. -/
theorem command_eq_none_of_next (other : ∀ x ∈ next c.rest, isKeywordChar x = false) :
    Scan.command c = none := by
  refine longest_eq_none (List.forall_mem_map.mpr fun f mem => ?_)
  obtain ⟨pieces, build⟩ := f
  obtain ⟨word, qs, rfl⟩ := exists_word_of_isHeaded (headed_forms _ mem)
  have proper := (proper_forms _ mem).1 (.word word) List.mem_cons_self
  refine pieces_eq_none build rfl proper fun x memNext isInitial => ?_
  obtain ⟨first, others, isWord, initials⟩ := initials_of_word proper
  rw [initials, List.mem_singleton] at isInitial
  rw [Piece.isProper, Bool.and_eq_true, List.all_eq_true] at proper
  have upper := proper.1 first (by rw [Piece.characters, isWord]; exact List.mem_cons_self)
  rw [← isInitial] at upper
  have isKeyword := isKeywordChar_of_isUpper upper
  rw [other x memNext] at isKeyword
  cases isKeyword

/-- No operand begins with a colon. -/
theorem pieces_eq_none_of_colon {α : Type} {q : Piece} {qs : List Piece}
    (build : Builder α (q :: qs)) (proper : q.isProper) (notOptional : q ≠ .optionalRegister)
    (colon : next c.rest = some ':') : pieces (q :: qs) build c = none := by
  have noNumber : number c = none := by
    apply number_eq_none
    rw [colon]
    rintro x ⟨⟩
    decide
  cases q with
  | optionalRegister => exact absurd rfl notOptional
  | numbers => exact bind_of_eq_none _ noNumber
  | target =>
    have noName : name c = none := by
      apply name_eq_none
      rw [colon]
      rintro x ⟨⟩
      decide
    have noTarget : Scan.target c = none := by
      rw [Scan.target, orElse_of_eq_none _ (map_of_eq_none _ noNumber)]
      exact map_of_eq_none _ noName
    exact bind_of_eq_none _ noTarget
  | word text =>
    obtain ⟨first, others, isWord, initials⟩ := initials_of_word proper
    refine pieces_eq_none build rfl proper ?_
    rw [colon, initials]
    rintro x ⟨⟩ isInitial
    have notDelimiter :=
      not_isDelimiter_of_proper proper first (by rw [isWord]; exact List.mem_cons_self)
    rw [← List.mem_singleton.mp isInitial] at notDelimiter
    exact absurd notDelimiter (by decide)
  | _ =>
    refine pieces_eq_none build rfl proper ?_
    rw [colon]
    rintro x ⟨⟩
    decide

/-- There is no command where there is a label. -/
theorem command_eq_none_of_label {name : String} (spells : SpellsName name token)
    (notCommand : NotCommand token) {tight : Bool} (spaced : Spaced tight [token, [':']] text)
    (ahead : c.rest = text ++ rest) (fresh : tight → c.Fresh) :
    Scan.command c = none := by
  have solid := spells.isSolid
  obtain _ | @⟨_, _, _, text, gap, blank, apart, spaced⟩ := spaced
  rw [solid.isMark_eq_false] at spaced
  rw [List.append_assoc] at ahead
  have ends := ends_of_label spaced rest
  have colon := next_of_label spaced rest
  refine longest_eq_none (List.forall_mem_map.mpr fun f mem => ?_)
  have headed := headed_forms f mem
  have proper := (proper_forms f mem).1
  obtain ⟨pieces, build⟩ := f
  obtain ⟨word, qs, rfl⟩ := exists_word_of_isHeaded headed
  obtain ⟨properWord, properOthers⟩ := List.forall_mem_cons.mp proper
  -- The name may be a keyword. But then the form goes on with an operand, and the colon begins
  -- none.
  by_cases isWord : token.map capital = word.toList
  · have before := before_of_fresh solid blank ahead fun nothing =>
      fresh ((apart nothing).resolve_right (by rw [solid.isMark_eq_false]; decide))
    refine (bind_of_eq_some _ (keyword_of_ahead solid isWord blank ahead before ends)).trans ?_
    cases qs with
    | nil =>
      obtain isClear | isReturn := Bool.or_eq_true_iff.mp headed
      · exact absurd (spellsWord_of_map_capital (beq_iff_eq.mp isClear ▸ isWord)) notCommand.1
      · exact absurd (spellsWord_of_map_capital (beq_iff_eq.mp isReturn ▸ isWord)) notCommand.2
    | cons q qs =>
      have notOptional : q ≠ .optionalRegister := bne_iff_ne.mp headed
      have noOperand (build : Builder Command (q :: qs)) :
          Scan.pieces (q :: qs) build (c.move (gap ++ token) (text ++ rest)) = none :=
        pieces_eq_none_of_colon build (List.forall_mem_cons.mp properOthers).1 notOptional colon
      exact noOperand build
  · exact bind_of_eq_none _ (keyword_eq_none_of_ne solid (not_isDelimiter_of_proper properWord)
      spells.isKeywordChar isWord blank ahead ends)

end Scan

end ChipEight.Assembly
