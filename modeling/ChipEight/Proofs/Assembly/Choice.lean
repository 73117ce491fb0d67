import ChipEight.Proofs.Assembly.Forms

/-!
# The form of a command

A command is read in the form in which it is spelled, because no other form comes as far. Two forms
have pieces in common up to a keyword or a first character in which they differ, and there the other
form fails: that is checked by computation for all pairs of forms but one. A jump to a label and a
computed jump only differ in how far they come.
-/

namespace ChipEight.Assembly

/-! ## Forms that differ -/

/-- Whether a piece is always spelled by one token whose first character tells it from other such
    pieces. -/
def Piece.isFirm : Piece → Bool
  | .word _ | .comma | .memory | .registerZero | .register | .number => true
  | .optionalRegister | .target | .numbers => false

/-- The capitals of the characters that a firm piece may begin with. -/
def Piece.initials : Piece → List Char
  | .word text => text.toList.take 1
  | .comma => [',']
  | .memory => ['[']
  | .registerZero | .register => ['V']
  | .number => ['0', '1', '2', '3', '4', '5', '6', '7', '8', '9']
  | .optionalRegister | .target | .numbers => []

/-- Whether no token spells both of two different pieces, or begins with a spelling of one and is
    the other. -/
def Piece.differs : Piece → Piece → Bool
  | .word text, .word other => text != other
  | p, q => p.isFirm && q.isFirm && p.initials.all (!q.initials.contains ·)

/-- Whether pieces differ behind those that they have in common. -/
def clash : List Piece → List Piece → Bool
  | p :: ps, q :: qs => if p = q then p.isFirm && clash ps qs else p.differs q
  | _, _ => false

/-- The pieces of a jump. -/
def jumpPieces : List Piece := [.word "JP", .target]

/-- The pieces of a computed jump. -/
def offsetPieces : List Piece := [.word "JP", .registerZero, .comma, .target]

/-- Any two forms clash, but for the two of jumps. -/
theorem forms_clash :
    Form.all.Pairwise fun f g =>
      clash f.pieces g.pieces ∧ clash g.pieces f.pieces ∨
        f.pieces = jumpPieces ∧ g.pieces = offsetPieces := by
  decide

theorem capital_of_isDigit {x : Char} (isDigit : x.isDigit) : capital x ∈ Piece.initials .number :=
  forall_isNameChar (P := fun x => x.isDigit → capital x ∈ Piece.initials .number) (by decide)
    (isNameChar_of_isDigit isDigit) isDigit

theorem SpellsLiteral.isDigit {literal : Literal} {token : Token}
    (spells : SpellsLiteral literal token) :
    ∀ x ∈ token.head?, x.isDigit := by
  intro x mem
  cases spells with
  | decimal _ nonempty areDigits =>
    exact (Numeral.areDigits_iff .decimal).mp areDigits x (List.mem_of_head? mem)
  | hexadecimal _ _ _ _ _ | binary _ _ _ _ _ =>
    obtain rfl := Option.some.inj mem
    decide

theorem initials_of_word {text : String} (proper : (Piece.word text).isProper) :
    ∃ first others, text.toList = first :: others ∧ Piece.initials (.word text) = [first] := by
  rw [Piece.isProper, Bool.and_eq_true, bne_iff_ne] at proper
  cases isWord : text.toList with
  | nil =>
    rw [String.toList_eq_nil_iff.mp isWord] at proper
    exact absurd rfl proper.2
  | cons first others => exact ⟨first, others, rfl, by rw [Piece.initials, isWord]; rfl⟩

namespace Scan

variable {α β : Type} {c : Cursor} {gap text rest : List Char} {token : Token}

/-- A firm piece is not read where its first character is not the next one. -/
theorem pieces_eq_none {q : Piece} {qs : List Piece} (build : Builder α (q :: qs)) (firm : q.isFirm)
    (proper : q.isProper) (other : ∀ x ∈ next c.rest, capital x ∉ q.initials) :
    pieces (q :: qs) build c = none := by
  have notV : 'V' ∈ q.initials → ∀ x ∈ next c.rest, (x == 'V' || x == 'v') = false := by
    intro isInitial x mem
    rw [Bool.or_eq_false_iff, beq_eq_false_iff_ne, beq_eq_false_iff_ne]
    constructor <;> rintro rfl <;> exact other _ mem isInitial
  cases q with
  | word text =>
    obtain ⟨first, others, isWord, initials⟩ := initials_of_word proper
    refine bind_of_eq_none _ (keyword_eq_none isWord fun x mem same => other x mem ?_)
    rw [initials, same]
    exact List.mem_cons_self
  | comma =>
    refine bind_of_eq_none _ (symbol_eq_none fun isComma => other ',' isComma ?_)
    exact List.mem_cons_self
  | memory =>
    refine bind_of_eq_none _ (separators_char_eq_none _ fun x mem => ?_)
    rw [beq_eq_false_iff_ne]
    intro same
    apply other x mem
    rw [same]
    exact List.mem_cons_self
  | registerZero => exact bind_of_eq_none _ (registerZero_eq_none (notV List.mem_cons_self))
  | register => exact bind_of_eq_none _ (register_eq_none (notV List.mem_cons_self))
  | number =>
    refine bind_of_eq_none _ (number_eq_none fun x mem => ?_)
    rw [Bool.eq_false_iff]
    intro isDigit
    exact other x mem (capital_of_isDigit isDigit)
  | optionalRegister | target | numbers => cases firm

/-- What the spelling of a firm piece is good for: it begins as it should, and whatever form has
    this piece at its beginning reads it there. -/
theorem firm_of_spells {p : Piece} {ps : List Piece} {build : Builder α (p :: ps)}
    {tokens : List Token} {a : α} (spells : Spells (p :: ps) build tokens a) (firm : p.isFirm)
    (proper : p.isProper) :
    ∃ token others build', tokens = token :: others ∧ Spells ps build' others a ∧
      (IsSolid token ∨ token = [',']) ∧
      (∀ x ∈ token.head?, capital x ∈ p.initials) ∧
      (∀ word, p = .word word → token.map capital = word.toList) ∧
      ∀ (qs : List Piece) (build : Builder β (p :: qs)) (c : Cursor) (gap rest : List Char),
        (∀ x ∈ gap, isSeparator x) →
        c.rest = gap ++ token ++ rest →
        (IsSolid token → (gap.getLast?.or c.before).all (!isKeywordChar ·) ∧ Ends rest) →
          ∃ build', pieces (p :: qs) build c = pieces qs build' (c.move (gap ++ token) rest) := by
  cases spells with
  | @word _ _ tokens _ word token spelled others =>
    have solid := isSolid_of_keyword proper spelled
    obtain ⟨first, letters, isWord, initials⟩ := initials_of_word proper
    refine ⟨token, tokens, _, rfl, others, .inl solid, ?_, ?_, ?_⟩
    · intro x mem
      have heads :=
        congrArg List.head? (show token.map capital = first :: letters from isWord ▸ spelled)
      rw [List.head?_map, show token.head? = some x from mem] at heads
      rw [initials, Option.some.inj heads]
      exact List.mem_cons_self
    · rintro _ ⟨⟩
      exact spelled
    · intro qs build c gap rest blank ahead conditions
      obtain ⟨before, ends⟩ := conditions solid
      exact ⟨build, bind_of_eq_some _ (keyword_of_ahead solid spelled blank ahead before ends)⟩
  | @comma _ _ tokens _ others =>
    refine ⟨[','], tokens, _, rfl, others, .inr rfl, ?_, nofun, ?_⟩
    · rintro x ⟨⟩
      decide
    · intro qs build c gap rest blank ahead _
      exact ⟨build, bind_of_eq_some _ (symbol_of_ahead (by decide) blank ahead)⟩
  | @memory _ _ tokens _ token spelled others =>
    have solid := isSolid_of_spellsIndex spelled
    refine ⟨token, tokens, _, rfl, others, .inl solid, ?_, nofun, ?_⟩
    · intro x mem
      have heads := congrArg List.head? spelled
      rw [List.head?_map, show token.head? = some x from mem] at heads
      rw [Option.some.inj heads]
      decide
    · intro qs build c gap rest blank ahead _
      exact ⟨build, bind_of_eq_some _ (bracketedIndex_of_ahead spelled blank ahead)⟩
  | @registerZero _ _ tokens _ letter isLetter others =>
    have solid : IsSolid [letter, '0'] :=
      (SpellsRegister.intro (x := 0) letter '0' isLetter rfl).isSolid
    refine ⟨[letter, '0'], tokens, _, rfl, others, .inl solid, ?_, nofun, ?_⟩
    · rintro x ⟨⟩
      obtain rfl | rfl := isLetter <;> decide
    · intro qs build c gap rest blank ahead conditions
      exact ⟨build,
        bind_of_eq_some _ (registerZero_of_ahead isLetter blank ahead (conditions solid).2)⟩
  | @register _ _ tokens _ x token spelled others =>
    refine ⟨token, tokens, _, rfl, others, .inl spelled.isSolid, ?_, nofun, ?_⟩
    · obtain ⟨letter, digit, isLetter, _⟩ := spelled
      rintro x ⟨⟩
      obtain rfl | rfl := isLetter <;> decide
    · intro qs build c gap rest blank ahead conditions
      exact ⟨build x,
        bind_of_eq_some _ (register_of_ahead spelled blank ahead (conditions spelled.isSolid).2)⟩
  | @number _ _ tokens _ literal token spelled others =>
    refine ⟨token, tokens, _, rfl, others, .inl spelled.isSolid, ?_, nofun, ?_⟩
    · intro x mem
      exact capital_of_isDigit (spelled.isDigit x mem)
    · intro qs build c gap rest blank ahead conditions
      exact ⟨build literal,
        bind_of_eq_some _ (number_of_ahead spelled blank ahead (conditions spelled.isSolid).2)⟩
  | omitted _ | given _ _ | target _ _ | numbers _ _ _ => cases firm

theorem differs_cases {p q : Piece} (differ : p.differs q) :
    (∃ word other, p = .word word ∧ q = .word other ∧ word ≠ other) ∨
      p.isFirm ∧ q.isFirm ∧ ∀ x ∈ p.initials, x ∉ q.initials := by
  have byInitials (differ : p.isFirm && q.isFirm && p.initials.all (!q.initials.contains ·)) :
      p.isFirm ∧ q.isFirm ∧ ∀ x ∈ p.initials, x ∉ q.initials := by
    simpa [and_assoc] using differ
  cases p with
  | word word =>
    cases q with
    | word other => exact .inl ⟨word, other, rfl, rfl, bne_iff_ne.mp differ⟩
    | _ => exact .inr (byInitials differ)
  | _ => exact .inr (byInitials differ)

theorem isKeywordChar_of_isUpper {x : Char} (upper : (capital x).isUpper) : isKeywordChar x := by
  simp [isKeywordChar, upper]

theorem isKeywordChar_of_keyword {word : String} (proper : (Piece.word word).isProper)
    (spells : token.map capital = word.toList) :
    ∀ x ∈ token, isKeywordChar x := by
  intro x mem
  rw [Piece.isProper, Bool.and_eq_true, List.all_eq_true] at proper
  apply isKeywordChar_of_isUpper
  apply proper.1
  rw [Piece.characters, ← spells]
  exact List.mem_map_of_mem mem

theorem not_isDelimiter_of_proper {word : String} (proper : (Piece.word word).isProper) :
    ∀ x ∈ word.toList, isDelimiter x = false := by
  rw [Piece.isProper, Bool.and_eq_true, List.all_eq_true] at proper
  exact fun x mem => not_isDelimiter_of_isUpper (proper.1 x mem)

/-- A form does not read a command in a form with which it clashes. -/
theorem pieces_eq_none_of_clash {ps qs : List Piece} {build : Builder α ps} {tokens : List Token}
    {a : α} (spells : Spells ps build tokens a) (proper : ∀ p ∈ ps, p.isProper)
    (properOther : ∀ q ∈ qs, q.isProper) (other : Builder β qs) (clashes : clash ps qs)
    {tight : Bool} (spaced : Spaced tight tokens text) (ahead : c.rest = text ++ rest)
    (fresh : tight → c.Fresh) (ends : Ends rest) : pieces qs other c = none := by
  -- Induction on the pieces of the form that is spelled. What the other has in common with it is
  -- read in both; the first piece in which they differ is not.
  induction ps generalizing qs tokens text tight c with
  | nil => cases clashes
  | cons p ps ih =>
    cases qs with
    | nil => cases clashes
    | cons q qs =>
      obtain ⟨properFirst, properOthers⟩ := List.forall_mem_cons.mp proper
      obtain ⟨properOtherFirst, properOtherOthers⟩ := List.forall_mem_cons.mp properOther
      have firm : p.isFirm := by
        rw [clash] at clashes
        split at clashes
        · exact (Bool.and_eq_true_iff.mp clashes).1
        · obtain ⟨word, _, rfl, _, _⟩ | ⟨firm, _, _⟩ := differs_cases clashes
          · rfl
          · exact firm
      obtain ⟨token, tokens, build', rfl, spellsOthers, kind, initial, isWord, read⟩ :=
        firm_of_spells (β := β) spells firm properFirst
      obtain _ | @⟨_, _, _, text, gap, blank, apart, spaced⟩ := spaced
      rw [List.append_assoc] at ahead
      have endsThere (solid : IsSolid token) : Ends (text ++ rest) := by
        rw [solid.isMark_eq_false] at spaced
        exact spaced.ends ends
      have before (solid : IsSolid token) : (gap.getLast?.or c.before).all (!isKeywordChar ·) := by
        refine before_of_fresh solid blank ahead fun nothing =>
          fresh ((apart nothing).resolve_right ?_)
        rw [solid.isMark_eq_false]
        decide
      by_cases same : p = q
      · subst same
        rw [clash, if_pos rfl] at clashes
        obtain ⟨_, clashesThen⟩ := Bool.and_eq_true_iff.mp clashes
        obtain ⟨otherThen, step⟩ := read qs other c gap (text ++ rest) blank ahead fun solid =>
          ⟨before solid, endsThere solid⟩
        rw [step]
        refine ih spellsOthers properOthers properOtherOthers otherThen clashesThen spaced
          rfl fun mark => ?_
        obtain solid | comma := kind
        · rw [solid.isMark_eq_false] at mark
          cases mark
        · rw [comma]
          exact fresh_of_comma c gap _
      · rw [clash, if_neg same] at clashes
        obtain ⟨word, otherWord, rfl, rfl, different⟩ | ⟨_, firmOther, apartInitials⟩ :=
          differs_cases clashes
        · -- Two keywords: none is spelled like the other.
          have spelled := isWord word rfl
          have solid := isSolid_of_keyword properFirst spelled
          refine bind_of_eq_none _
            (keyword_eq_none_of_ne solid (not_isDelimiter_of_proper properOtherFirst)
            (isKeywordChar_of_keyword properFirst spelled) ?_ blank ahead (endsThere solid))
          intro spellsOther
          exact different (String.toList_inj.mp (spelled.symm.trans spellsOther))
        · -- The first characters tell the two pieces apart.
          refine pieces_eq_none other firmOther properOtherFirst fun x mem => ?_
          apply apartInitials
          apply initial
          rw [ahead, List.append_assoc, next_append blank] at mem
          obtain solid | comma := kind
          · rwa [solid.next] at mem
          · subst comma
            rwa [show next ([','] ++ (text ++ rest)) = some ',' from next_cons (by decide)] at mem

/-! ## Jumps -/

/-- A name that register 0 is read from is nothing but that. -/
theorem rest_of_registerZero {name : String} {c' : Cursor} {a : Unit}
    (spells : SpellsName name token) (blank : ∀ x ∈ gap, isSeparator x)
    (ahead : c.rest = gap ++ token ++ rest) (ends : Ends rest)
    (found : registerZero c = some (a, c')) : c'.rest = rest := by
  have areWordChars : ∀ x ∈ token, Text.isWordChar x := by
    obtain ⟨first, others, starts, areNameChars⟩ := spells
    rw [List.forall_mem_cons]
    exact ⟨isWordChar_of_isNameChar (isNameChar_of_startsName starts),
      fun x mem => isWordChar_of_isNameChar (areNameChars x mem)⟩
  rw [List.append_assoc] at ahead
  rw [registerZero, separators_bind _ blank ahead (spells.isSolid.head?_all rest)] at found
  obtain ⟨letter, c₁, foundLetter, found⟩ := (bind_eq_some_iff _ _ _ c' a).mp found
  obtain ⟨zero, c₂, foundZero, found⟩ := (bind_eq_some_iff _ _ _ c' a).mp found
  obtain ⟨rest₁, isFirst, _, rfl⟩ := (char_eq_some_iff _ _ _ _).mp foundLetter
  obtain ⟨rest₂, isSecond, isZero, rfl⟩ := (char_eq_some_iff _ _ _ _).mp foundZero
  change token ++ rest = letter :: rest₁ at isFirst
  change rest₁ = zero :: rest₂ at isSecond
  have stops : rest₂.head?.all (!Text.isWordChar ·) := by
    rw [Scan.ahead] at found
    split at found
    next holds => exact holds
    · cases found
  have stays : c'.rest = rest₂ := by
    rw [Scan.ahead] at found
    split at found
    · rw [← (Prod.mk.inj (Option.some.inj found)).2]
      rfl
    · cases found
  rw [stays]
  subst isSecond
  obtain rfl := beq_iff_eq.mp isZero
  -- A shorter name would end in front of a digit, a longer one would go on behind the register.
  obtain _ | ⟨_, _ | ⟨_, _ | ⟨third, more⟩⟩⟩ := token
  · exact absurd rfl spells.isSolid.1
  · obtain ⟨_, isRest⟩ := List.cons.inj isFirst
    exact absurd (ends '0' (by rw [show rest = '0' :: rest₂ from isRest]; rfl)) (by decide)
  · obtain ⟨_, isRest⟩ := List.cons.inj isFirst
    exact (List.cons.inj isRest).2.symm
  · obtain ⟨_, isRest⟩ := List.cons.inj isFirst
    rw [← (List.cons.inj isRest).2] at stops
    have isWord := areWordChars third (by simp)
    simp [isWord] at stops

/-- Both kinds of jump have their keyword read by both forms. -/
theorem jump_keyword {ps qs : List Piece} {build : Builder α (.word "JP" :: ps)}
    {tokens : List Token} {a : α} (spells : Spells (.word "JP" :: ps) build tokens a)
    (other : Builder β (.word "JP" :: qs)) {tight : Bool} (spaced : Spaced tight tokens text)
    (ahead : c.rest = text ++ rest) (fresh : tight → c.Fresh) (ends : Ends rest) :
    ∃ build' others keyword text' other',
      Spells ps build' others a ∧ Spaced false others text' ∧ text = keyword ++ text' ∧
        pieces (.word "JP" :: qs) other c = pieces qs other' (c.move keyword (text' ++ rest)) := by
  obtain ⟨token, others, build', rfl, spellsOthers, kind, _, isWord, read⟩ :=
    firm_of_spells (β := β) spells rfl (by decide)
  have solid := isSolid_of_keyword (by decide) (isWord "JP" rfl)
  obtain _ | @⟨_, _, _, text, gap, blank, apart, spaced⟩ := spaced
  rw [solid.isMark_eq_false] at apart spaced
  rw [List.append_assoc] at ahead
  have before := before_of_fresh solid blank ahead fun nothing =>
    fresh ((apart nothing).resolve_right (by decide))
  obtain ⟨other', step⟩ :=
    read qs other c gap (text ++ rest) blank ahead fun _ => ⟨before, spaced.ends ends⟩
  exact ⟨build', others, gap ++ token, text, other', spellsOthers, spaced, rfl, step⟩

/-- A jump to a label is not read as a computed jump. -/
theorem offset_eq_none {build : Builder α jumpPieces} {tokens : List Token} {a : α}
    (spells : Spells jumpPieces build tokens a) (other : Builder β offsetPieces) {tight : Bool}
    (spaced : Spaced tight tokens text) (ahead : c.rest = text ++ rest) (fresh : tight → c.Fresh)
    (ends : Ends rest) (noComma : next rest ≠ some ',') : pieces offsetPieces other c = none := by
  obtain ⟨build', others, keyword, text, other', spellsOthers, spaced, _, step⟩ :=
    jump_keyword spells other spaced ahead fresh ends
  refine step.trans ?_
  cases spellsOthers with
  | @target _ _ _ _ target token spelled nothing =>
    cases nothing
    obtain _ | @⟨_, _, _, _, gap, blank, _, nothing⟩ := spaced
    cases nothing
    rw [List.append_nil]
    cases found : registerZero (c.move keyword (gap ++ token ++ rest)) with
    | none => exact bind_of_eq_none _ found
    | some result =>
      obtain ⟨_, c'⟩ := result
      have stays : c'.rest = rest := by
        cases spelled with
        | label spelledName => exact rest_of_registerZero spelledName blank rfl ends found
        | @number literal _ spelledNumber =>
          have notV : registerZero (c.move keyword (gap ++ token ++ rest)) = none := by
            apply registerZero_eq_none
            intro x mem
            rw [show (c.move keyword (gap ++ token ++ rest)).rest = gap ++ token ++ rest from rfl,
              List.append_assoc, next_append blank, spelledNumber.isSolid.next] at mem
            have isDigit := spelledNumber.isDigit x mem
            rw [Bool.or_eq_false_iff, beq_eq_false_iff_ne, beq_eq_false_iff_ne]
            constructor <;> rintro rfl <;> exact absurd isDigit (by decide)
          rw [notV] at found
          cases found
      refine (bind_of_eq_some _ found).trans (bind_of_eq_none _ (symbol_eq_none ?_))
      rwa [stays]

/-- A computed jump is read as a jump only up to its register. -/
theorem jump_position {build : Builder α offsetPieces} {tokens : List Token} {a : α}
    (spells : Spells offsetPieces build tokens a) (other : Builder β jumpPieces) {tight : Bool}
    (spaced : Spaced tight tokens text) (ahead : c.rest = text ++ rest) (fresh : tight → c.Fresh)
    (ends : Ends rest) :
    ∃ b c', pieces jumpPieces other c = some (b, c') ∧ c'.position < c.position + text.length := by
  obtain ⟨build', others, keyword, text, other', spellsOthers, spacedOthers, rfl, step⟩ :=
    jump_keyword spells other spaced ahead fresh ends
  cases spellsOthers with
  | @registerZero _ _ tokens _ letter isLetter spellsOthers =>
    have spelled : SpellsName (String.ofList [letter, '0']) [letter, '0'] := by
      refine .intro letter ['0'] ?_ (List.forall_mem_singleton.mpr rfl)
      obtain rfl | rfl := isLetter <;> decide
    obtain _ | @⟨_, _, _, text, gap, blank, _, spacedRest⟩ := spacedOthers
    rw [spelled.isSolid.isMark_eq_false] at spacedRest
    have found := target_of_ahead (c := c.move keyword (gap ++ [letter, '0'] ++ text ++ rest))
      (.label spelled) blank (List.append_assoc _ _ _) (spacedRest.ends ends)
    refine ⟨_, _, step.trans (bind_of_eq_some _ found), ?_⟩
    cases spellsOthers with
    | comma spellsOthers =>
      obtain _ | ⟨gap', _, _, _⟩ := spacedRest
      simp only [Cursor.move, List.length_append, List.length_cons, List.length_nil]
      omega

/-! ## The longest form -/

/-- An alternative is taken if those in front of it come less far and those behind it no farther. -/
theorem longest_of_best {before after : List (Scan α)} {p : Scan α} {a : α} {c' : Cursor}
    (found : p c = some (a, c'))
    (shorter : ∀ q ∈ before, ∀ b c'', q c = some (b, c'') → c''.position < c'.position)
    (noLonger : ∀ q ∈ after, ∀ b c'', q c = some (b, c'') → c''.position ≤ c'.position) :
    longest (before ++ p :: after) c = some (a, c') := by
  have front : farther (longest before c) (p c) = some (a, c') := by
    rw [found]
    cases best : longest before c with
    | none => rfl
    | some result =>
      obtain ⟨b, c''⟩ := result
      obtain ⟨q, mem, here⟩ := exists_of_longest before c c'' b best
      exact if_pos (shorter q mem b c'' here)
  have back : after.foldl (fun best q => farther best (q c)) (some (a, c')) = some (a, c') := by
    clear front
    induction after with
    | nil => rfl
    | cons q after ih =>
      obtain ⟨first, others⟩ := List.forall_mem_cons.mp noLonger
      have stays : farther (some (a, c')) (q c) = some (a, c') := by
        cases here : q c with
        | none => rfl
        | some result => exact if_neg (Nat.not_lt.mpr (first result.1 result.2 here))
      rw [List.foldl_cons, stays]
      exact ih others
  rw [longest, List.foldl_append, List.foldl_cons]
  change after.foldl _ (farther (longest before c) (p c)) = _
  rw [front]
  exact back

theorem longest_eq_none {alternatives : List (Scan α)} (missing : ∀ p ∈ alternatives, p c = none) :
    longest alternatives c = none := by
  cases found : longest alternatives c with
  | none => rfl
  | some result =>
    obtain ⟨p, mem, here⟩ := exists_of_longest alternatives c result.2 result.1 found
    rw [missing p mem] at here
    cases here

/-- A command is read where it is spelled, up to its end. -/
theorem command_of_ahead {command : Command} {tokens : List Token} (spells : command.Spelled tokens)
    {tight : Bool} (spaced : Spaced tight tokens text) (ahead : c.rest = text ++ rest)
    (fresh : tight → c.Fresh) (ends : Ends rest) (noComma : next rest ≠ some ',') :
    Scan.command c = some (command, c.move text rest) := by
  obtain ⟨f, mem, spells⟩ := Command.spelled_iff.mp spells
  have found : f.read c = some (command, c.move text rest) :=
    pieces_of_ahead spells (proper_forms f mem).1 (proper_forms f mem).2 spaced ahead fresh ends
      noComma
  have shorter (g : Form) (memOther : g ∈ Form.all)
      (apart : clash f.pieces g.pieces ∨ f.pieces = jumpPieces ∧ g.pieces = offsetPieces ∨
        f.pieces = offsetPieces ∧ g.pieces = jumpPieces) (b : Command) (c'' : Cursor)
      (foundOther : g.read c = some (b, c'')) : c''.position < (c.move text rest).position := by
    obtain clashes | ⟨isJump, isOffset⟩ | ⟨isOffset, isJump⟩ := apart
    · rw [Form.read, pieces_eq_none_of_clash spells (proper_forms f mem).1
        (proper_forms g memOther).1 g.build clashes spaced ahead fresh ends] at foundOther
      cases foundOther
    · obtain ⟨pieces, build⟩ := f
      obtain ⟨piecesOther, buildOther⟩ := g
      subst isJump isOffset
      rw [Form.read, offset_eq_none spells buildOther spaced ahead fresh ends noComma] at foundOther
      cases foundOther
    · obtain ⟨pieces, build⟩ := f
      obtain ⟨piecesOther, buildOther⟩ := g
      subst isJump isOffset
      obtain ⟨b', c', foundJump, position⟩ :=
        jump_position spells buildOther spaced ahead fresh ends
      rw [Form.read, foundJump] at foundOther
      obtain ⟨rfl, rfl⟩ := Prod.mk.inj (Option.some.inj foundOther)
      exact position
  obtain ⟨before, after, split⟩ := List.append_of_mem mem
  have pairs := forms_clash
  rw [split, List.pairwise_append, List.pairwise_cons] at pairs
  obtain ⟨_, ⟨later, _⟩, earlier⟩ := pairs
  rw [Scan.command, split, List.map_append, List.map_cons]
  apply longest_of_best found
  · intro q memMap b c'' foundOther
    obtain ⟨g, memBefore, rfl⟩ := List.mem_map.mp memMap
    have memOther : g ∈ Form.all := split ▸ List.mem_append_left _ memBefore
    refine shorter g memOther ?_ b c'' foundOther
    obtain ⟨_, clashes⟩ | ⟨isJump, isOffset⟩ := earlier g memBefore f List.mem_cons_self
    · exact .inl clashes
    · exact .inr (.inr ⟨isOffset, isJump⟩)
  · intro q memMap b c'' foundOther
    obtain ⟨g, memAfter, rfl⟩ := List.mem_map.mp memMap
    have memOther : g ∈ Form.all :=
      split ▸ List.mem_append_right _ (List.mem_cons_of_mem _ memAfter)
    refine Nat.le_of_lt (shorter g memOther ?_ b c'' foundOther)
    obtain ⟨clashes, _⟩ | ⟨isJump, isOffset⟩ := later g memAfter
    · exact .inl clashes
    · exact .inr (.inl ⟨isJump, isOffset⟩)

end Scan

end ChipEight.Assembly
