import ChipEight.Proofs.Assembly.Errors
import ChipEight.Proofs.Assembly.Formed
import ChipEight.Proofs.Assembly.Reads

/-!
# Nothing in a text is ignored

Every token passes over its spelling and nothing else that counts, and so does every form of
command, every label and every command with the comments around it. A text is therefore used up by
its items, unless one of them is unknown.
-/

namespace ChipEight.Assembly

/-! ## Characters -/

theorem isPlain_of_not_isDelimiter {c : Char} (h : isDelimiter c = false) : IsPlain c := by
  refine ⟨?_, ?_⟩
  · rw [Bool.eq_false_iff]
    intro separates
    rw [isDelimiter_of_isSeparator separates] at h
    cases h
  · rintro rfl
    exact absurd h (by decide)

theorem isPlain_of_capital (c x : Char) (same : capital c = x) (notX : isDelimiter x = false) :
    IsPlain c :=
  isPlain_of_not_isDelimiter (not_isDelimiter_of_capital same notX)

theorem isPlain_of_toLower (c x : Char) (same : c.toLower = x) (notX : isDelimiter x = false) :
    IsPlain c :=
  isPlain_of_not_isDelimiter (not_isDelimiter_of_toLower same notX)

theorem isPlain_of_isNameChar (c : Char) (h : isNameChar c) : IsPlain c :=
  isPlain_of_not_isDelimiter (not_isDelimiter_of_isNameChar h)

theorem isPlain_of_isHexDigit (c : Char) (h : isHexDigit c) : IsPlain c :=
  isPlain_of_not_isDelimiter (not_isDelimiter_of_isHexDigit h)

theorem isPlain_of_isDigit (radix : Radix) (c : Char) (h : radix.isDigit c) : IsPlain c :=
  isPlain_of_not_isDelimiter (not_isDelimiter_of_isDigit h)

namespace Scan

/-! ## Tokens -/

theorem reads_separators : Reads separators fun _ spelled => spelled = [] := by
  intro c a c' found
  rw [separators, bind_eq_some_iff] at found
  obtain ⟨taken, c'', passed, done⟩ := found
  obtain ⟨rfl, rfl⟩ := Prod.mk.inj (Option.some.inj done)
  rw [span_eq] at passed
  obtain ⟨rfl, rfl⟩ := Prod.mk.inj (Option.some.inj passed)
  have ahead : c.rest = c.rest.takeWhile isSeparator ++ c.rest.dropWhile isSeparator :=
    List.takeWhile_append_dropWhile.symm
  refine ⟨leads_move c _ _ ahead, [], rfl, ?_⟩
  conv_lhs => rw [ahead]
  exact bare_separators_append _ _ fun x mem => List.mem_takeWhile_imp mem

theorem reads_span (p : Char → Bool) (plain : ∀ x, p x → IsPlain x) :
    Reads (span p) fun taken spelled => spelled = taken ∧ ∀ x ∈ taken, p x := by
  intro c taken c' found
  rw [span_eq] at found
  obtain ⟨rfl, rfl⟩ := Prod.mk.inj (Option.some.inj found)
  have holds (x : Char) (mem : x ∈ c.rest.takeWhile p) : p x := List.mem_takeWhile_imp mem
  have ahead : c.rest = c.rest.takeWhile p ++ c.rest.dropWhile p :=
    List.takeWhile_append_dropWhile.symm
  refine ⟨leads_move c _ _ ahead, c.rest.takeWhile p, ⟨rfl, holds⟩, ?_⟩
  conv_lhs => rw [ahead]
  exact bare_append _ _ fun x mem => plain x (holds x mem)

theorem reads_someOf (p : Char → Bool) (plain : ∀ x, p x → IsPlain x) :
    Reads (someOf p) fun taken spelled => spelled = taken ∧ taken ≠ [] ∧ ∀ x ∈ taken, p x := by
  refine (reads_span p plain).bind fun taken spelled ⟨same, holds⟩ => ?_
  subst same
  cases spelled with
  | nil =>
    intro c a c' found
    cases found
  | cons x taken => exact .pure _ ⟨List.append_nil _, List.cons_ne_nil _ _, holds⟩

theorem reads_char (p : Char → Bool) (plain : ∀ x, p x → IsPlain x) :
    Reads (char p) fun x spelled => spelled = [x] ∧ p x := by
  intro c x c' found
  obtain ⟨rest, ahead, holds, rfl⟩ := (char_eq_some_iff p c c' x).mp found
  refine ⟨leads_move c [x] rest ahead, [x], ⟨rfl, holds⟩, ?_⟩
  rw [ahead]
  exact bare_cons x rest (plain x holds)

theorem reads_ahead (p : Char → Bool) : Reads (ahead p) fun _ spelled => spelled = [] := by
  intro c a c' found
  rw [ahead] at found
  split at found
  · obtain ⟨_, rfl⟩ := Prod.mk.inj (Option.some.inj found)
    exact ⟨.refl c, [], rfl, rfl⟩
  · cases found

theorem reads_behind (p : Char → Bool) : Reads (behind p) fun _ spelled => spelled = [] := by
  intro c a c' found
  rw [behind] at found
  split at found
  · obtain ⟨_, rfl⟩ := Prod.mk.inj (Option.some.inj found)
    exact ⟨.refl c, [], rfl, rfl⟩
  · cases found

theorem reads_symbol (x : Char) (plain : IsPlain x) :
    Reads (symbol x) fun _ spelled => spelled = [x] := by
  refine reads_separators.silent_bind fun _ => ?_
  have isX (c : Char) (same : (c == x) = true) : IsPlain c := (beq_iff_eq.mp same) ▸ plain
  refine (reads_char _ isX).bind fun c spelled ⟨taken, same⟩ => .pure () ?_
  subst taken
  rw [beq_iff_eq.mp same]
  rfl

theorem reads_letters (word : List Char) (plain : ∀ x ∈ word, isDelimiter x = false) :
    Reads (letters word) fun _ spelled => spelled.map capital = word := by
  induction word with
  | nil => exact .pure () rfl
  | cons x word ih =>
    obtain ⟨first, others⟩ := List.forall_mem_cons.mp plain
    have isX (c : Char) (same : (capital c == x) = true) : IsPlain c :=
      isPlain_of_capital c x (beq_iff_eq.mp same) first
    refine (reads_char _ isX).bind fun c spelled ⟨taken, same⟩ => ?_
    subst taken
    refine (ih others).mono fun _ more spells => ?_
    rw [List.map_append, spells, List.map_singleton, beq_iff_eq.mp same, List.singleton_append]

theorem reads_keyword (word : String) (plain : ∀ x ∈ word.toList, isDelimiter x = false) :
    Reads (keyword word) fun _ spelled => spelled.map capital = word.toList := by
  refine reads_separators.silent_bind fun _ => (reads_behind _).silent_bind fun _ => ?_
  refine (reads_letters word.toList plain).bind fun _ spelled spells => ?_
  refine (reads_ahead _).mono fun _ more nothing => ?_
  subst nothing
  rwa [List.append_nil]

theorem reads_bracketedIndex :
    Reads bracketedIndex fun _ spelled => spelled.map capital = ['[', 'I', ']'] :=
  reads_separators.silent_bind fun _ => reads_letters _ (by simp [isDelimiter, delimiters])

theorem isPlain_of_isLetterV (c : Char) (isV : (c == 'V' || c == 'v') = true) : IsPlain c := by
  simp only [Bool.or_eq_true, beq_iff_eq] at isV
  obtain rfl | rfl := isV <;> decide

theorem reads_register : Reads register fun x spelled => SpellsRegister x spelled := by
  refine reads_separators.silent_bind fun _ => ?_
  refine (reads_char _ isPlain_of_isLetterV).bind fun letter spelled ⟨taken, isLetter⟩ => ?_
  subst taken
  refine (reads_char _ isPlain_of_isHexDigit).bind fun digit spelled ⟨taken, isDigit⟩ => ?_
  subst taken
  refine (reads_ahead _).silent_bind fun _ => .pure _ ?_
  refine .intro letter digit ?_ (Numeral.digit?_eq_register isDigit)
  simpa using isLetter

theorem reads_registerZero :
    Reads registerZero fun _ spelled =>
      ∃ letter, (letter = 'V' ∨ letter = 'v') ∧ spelled = [letter, '0'] := by
  refine reads_separators.silent_bind fun _ => ?_
  refine (reads_char _ isPlain_of_isLetterV).bind fun letter spelled ⟨taken, isLetter⟩ => ?_
  subst taken
  have isZero (c : Char) (same : (c == '0') = true) : IsPlain c := (beq_iff_eq.mp same) ▸ by decide
  refine (reads_char _ isZero).bind fun zero spelled ⟨taken, same⟩ => ?_
  subst taken
  refine (reads_ahead _).mono fun _ more nothing => ⟨letter, by simpa using isLetter, ?_⟩
  rw [nothing, beq_iff_eq.mp same]
  rfl

theorem reads_marked (mark : Char) (plain : isDelimiter mark = false) (radix : Radix) :
    Reads (marked mark radix) fun literal spelled =>
      ∃ m digits, m.toLower = mark ∧ digits ≠ [] ∧ (∀ c ∈ digits, radix.isDigit c) ∧
        literal = ⟨radix, digits⟩ ∧
        spelled = '0' :: m :: digits := by
  refine reads_separators.silent_bind fun _ => ?_
  have isZero (c : Char) (same : (c == '0') = true) : IsPlain c := (beq_iff_eq.mp same) ▸ by decide
  refine (reads_char _ isZero).bind fun zero spelled ⟨taken, zeroSame⟩ => ?_
  subst taken
  have isMark (c : Char) (same : (c.toLower == mark) = true) : IsPlain c :=
    isPlain_of_toLower c mark (beq_iff_eq.mp same) plain
  refine (reads_char _ isMark).bind fun m spelled ⟨taken, same⟩ => ?_
  subst taken
  have digitsRead := reads_someOf _ (isPlain_of_isDigit radix)
  refine digitsRead.bind fun digits spelled ⟨taken, nonempty, areDigits⟩ => ?_
  subst taken
  refine .pure _ ⟨m, spelled, beq_iff_eq.mp same, nonempty, areDigits, rfl, ?_⟩
  rw [beq_iff_eq.mp zeroSame, List.append_nil]
  rfl

theorem reads_number : Reads number fun literal spelled => SpellsLiteral literal spelled := by
  refine .orElse ?_ (.orElse ?_ ?_)
  · refine (reads_marked 'x' (by decide) .hexadecimal).mono fun literal spelled holds => ?_
    obtain ⟨mark, digits, isMark, nonempty, areDigits, rfl, rfl⟩ := holds
    exact .hexadecimal mark digits isMark nonempty ((Numeral.areDigits_iff _).mpr areDigits)
  · refine (reads_marked 'b' (by decide) .binary).mono fun literal spelled holds => ?_
    obtain ⟨mark, digits, isMark, nonempty, areDigits, rfl, rfl⟩ := holds
    exact .binary mark digits isMark nonempty ((Numeral.areDigits_iff _).mpr areDigits)
  · refine reads_separators.silent_bind fun _ => ?_
    have digitsRead := reads_someOf _ (isPlain_of_isDigit .decimal)
    refine digitsRead.bind fun digits spelled ⟨taken, nonempty, areDigits⟩ => ?_
    subst taken
    refine .pure _ ?_
    rw [List.append_nil]
    exact .decimal spelled nonempty ((Numeral.areDigits_iff _).mpr areDigits)

theorem reads_name : Reads name fun name spelled => SpellsName name spelled := by
  refine reads_separators.silent_bind fun _ => ?_
  have plainStart (c : Char) (starts : startsName c) : IsPlain c :=
    isPlain_of_isNameChar c (isNameChar_of_startsName starts)
  refine (reads_char _ plainStart).bind fun first spelled ⟨taken, starts⟩ => ?_
  subst taken
  refine (reads_span _ isPlain_of_isNameChar).bind fun rest spelled ⟨taken, others⟩ => ?_
  subst taken
  refine .pure _ ?_
  rw [List.append_nil]
  exact .intro first spelled starts others

theorem reads_target : Reads target fun target spelled => SpellsTarget target spelled := by
  refine .orElse (.map ?_) (.map ?_)
  · exact reads_number.mono fun literal spelled spells => .number spells
  · exact reads_name.mono fun name spelled spells => .label spells

/-! ## Commands -/

theorem reads_afterComma {α : Type} {p : Scan α} {P : α → List Char → Prop} (reads : Reads p P) :
    Reads (afterComma p) fun a spelled => ∃ token, P a token ∧ spelled = [','] ++ token := by
  refine (reads_symbol ',' (by decide)).bind fun _ spelled taken => ?_
  subst taken
  exact reads.mono fun a token spells => ⟨token, spells, rfl⟩

theorem reads_more :
    Reads (all (afterComma number)) fun literals spelled =>
      ∃ tokens, SpellsMore literals tokens ∧ spelled = tokens.flatten := by
  refine .all (reads_afterComma reads_number) ⟨[], .nil, rfl⟩ ?_
  rintro literal literals _ _ ⟨token, spells, rfl⟩ ⟨tokens, others, rfl⟩
  exact ⟨[','] :: token :: tokens, .cons spells others, by simp⟩

theorem reads_pieces {α : Type} (ps : List Piece) (build : Builder α ps)
    (plain : ∀ p ∈ ps, ∀ x ∈ p.characters, isDelimiter x = false) :
    Reads (pieces ps build) fun a spelled =>
      ∃ tokens, Spells ps build tokens a ∧ spelled = tokens.flatten := by
  induction ps with
  | nil => exact .pure build ⟨[], .nil build, rfl⟩
  | cons p ps ih =>
    obtain ⟨first, others⟩ := List.forall_mem_cons.mp plain
    have rest (build : Builder α ps) := ih build others
    cases p with
    | word text =>
      refine (reads_keyword text first).bind fun _ token spells => (rest build).mono ?_
      rintro a _ ⟨tokens, spellsRest, rfl⟩
      exact ⟨token :: tokens, .word spells spellsRest, rfl⟩
    | comma =>
      refine (reads_symbol ',' (by decide)).bind fun _ token taken => (rest build).mono ?_
      rintro a _ ⟨tokens, spellsRest, rfl⟩
      subst taken
      exact ⟨[','] :: tokens, .comma spellsRest, rfl⟩
    | memory =>
      refine reads_bracketedIndex.bind fun _ token spells => (rest build).mono ?_
      rintro a _ ⟨tokens, spellsRest, rfl⟩
      exact ⟨token :: tokens, .memory spells spellsRest, rfl⟩
    | registerZero =>
      refine reads_registerZero.bind fun _ token ⟨letter, isLetter, taken⟩ => (rest build).mono ?_
      rintro a _ ⟨tokens, spellsRest, rfl⟩
      subst taken
      exact ⟨[letter, '0'] :: tokens, .registerZero isLetter spellsRest, rfl⟩
    | register =>
      refine reads_register.bind fun x token spells => (rest (build x)).mono ?_
      rintro a _ ⟨tokens, spellsRest, rfl⟩
      exact ⟨token :: tokens, .register spells spellsRest, rfl⟩
    | optionalRegister =>
      refine (reads_afterComma reads_register).optional.bind fun result spelled holds => ?_
      cases result with
      | none =>
        subst holds
        refine (rest (build 0)).mono ?_
        rintro a _ ⟨tokens, spellsRest, rfl⟩
        exact ⟨tokens, .omitted spellsRest, rfl⟩
      | some x =>
        obtain ⟨token, spells, rfl⟩ := holds
        refine (rest (build x)).mono ?_
        rintro a _ ⟨tokens, spellsRest, rfl⟩
        exact ⟨[','] :: token :: tokens, .given spells spellsRest, by simp⟩
    | number =>
      refine reads_number.bind fun literal token spells => (rest (build literal)).mono ?_
      rintro a _ ⟨tokens, spellsRest, rfl⟩
      exact ⟨token :: tokens, .number spells spellsRest, rfl⟩
    | target =>
      refine reads_target.bind fun target token spells => (rest (build target)).mono ?_
      rintro a _ ⟨tokens, spellsRest, rfl⟩
      exact ⟨token :: tokens, .target spells spellsRest, rfl⟩
    | numbers =>
      refine reads_number.bind fun literal token spells => reads_more.bind ?_
      rintro literals _ ⟨more, spellsMore, rfl⟩
      refine (rest (build (literal :: literals))).mono ?_
      rintro a _ ⟨tokens, spellsRest, rfl⟩
      exact ⟨token :: (more ++ tokens), .numbers spells spellsMore spellsRest, by simp⟩

theorem plain_forms :
    ∀ f ∈ Form.all, ∀ p ∈ f.pieces, ∀ x ∈ p.characters, isDelimiter x = false := by
  have checked : ∀ f ∈ Form.all, ∀ p ∈ f.pieces, p.characters.all (!isDelimiter ·) := by decide
  simpa only [List.all_eq_true, Bool.not_eq_true'] using checked

theorem reads_command :
    Reads command fun command spelled =>
      ∃ tokens, command.Spelled tokens ∧ spelled = tokens.flatten := by
  refine .longest _ (List.forall_mem_map.mpr fun f mem => ?_)
  refine (reads_pieces f.pieces f.build (plain_forms f mem)).mono ?_
  rintro command _ ⟨tokens, spells, rfl⟩
  exact ⟨tokens, spelled_of_form f mem tokens command spells, rfl⟩

/-! ## Items -/

theorem reads_label :
    Reads label fun name spelled => ∃ token, SpellsName name token ∧ spelled = token ++ [':'] := by
  refine reads_name.bind fun name token spells => ?_
  refine (reads_symbol ':' (by decide)).bind fun _ spelled taken => .pure name ⟨token, spells, ?_⟩
  rw [taken, List.append_nil]

/-- A comment is passed over up to the end of its line, which is what a bare text leaves out. -/
theorem comment_passes (c c' : Cursor) (a : Unit) (found : comment c = some (a, c')) :
    c.Leads c' ∧ c'.rest.length < c.rest.length ∧ bare c.rest = bare c'.rest := by
  obtain ⟨_, c₀, separated, found⟩ := (bind_eq_some_iff _ _ c c' a).mp found
  obtain ⟨first, c₁, foundFirst, found⟩ := (bind_eq_some_iff _ _ c₀ c' a).mp found
  obtain ⟨second, c₂, foundSecond, found⟩ := (bind_eq_some_iff _ _ c₁ c' a).mp found
  obtain ⟨taken, c₃, passed, done⟩ := (bind_eq_some_iff _ _ c₂ c' a).mp found
  obtain ⟨_, rfl⟩ := Prod.mk.inj (Option.some.inj done)
  obtain ⟨leads, _, rfl, same⟩ := reads_separators c _ c₀ separated
  obtain ⟨rest₁, ahead, slash, rfl⟩ := (char_eq_some_iff _ _ _ _).mp foundFirst
  obtain ⟨rest₂, aheadThen, slashThen, rfl⟩ := (char_eq_some_iff _ _ _ _).mp foundSecond
  rw [span_eq] at passed
  obtain ⟨_, rfl⟩ := Prod.mk.inj (Option.some.inj passed)
  obtain rfl := beq_iff_eq.mp slash
  obtain rfl := beq_iff_eq.mp slashThen
  change rest₁ = '/' :: rest₂ at aheadThen
  subst aheadThen
  have leadsThen : c₀.Leads (((c₀.move ['/'] ('/' :: rest₂)).move ['/'] rest₂).move
      (rest₂.takeWhile (· != '\n')) (rest₂.dropWhile (· != '\n'))) := by
    refine (leads_move c₀ ['/'] _ ahead).trans
      ((leads_move _ ['/'] rest₂ rfl).trans (leads_move _ _ _ ?_))
    exact List.takeWhile_append_dropWhile.symm
  refine ⟨leads.trans leadsThen, ?_, ?_⟩
  · have shorter : (rest₂.dropWhile (· != '\n')).length ≤ rest₂.length :=
      (List.dropWhile_sublist _).length_le
    have before := leads.length_le
    rw [ahead, List.length_cons, List.length_cons] at before
    change (rest₂.dropWhile (· != '\n')).length < c.rest.length
    omega
  · rw [same, List.nil_append, ahead]
    exact bare_comment rest₂

theorem reads_comment : Reads comment fun _ spelled => spelled = [] := by
  intro c a c' found
  obtain ⟨leads, _, same⟩ := comment_passes c c' a found
  exact ⟨leads, [], rfl, same⟩

theorem reads_comments : Reads (all comment) fun _ spelled => spelled = [] :=
  .all reads_comment rfl (by rintro _ _ _ _ rfl rfl; rfl)

end Scan

theorem flatten_ne_nil {α : Type} {ps : List Piece} {build : Builder α ps} {tokens : List Token}
    {a : α} (spells : Spells ps build tokens a)
    (starts : ps.head?.any fun p => !p.characters.isEmpty) :
    tokens.flatten ≠ [] := by
  cases spells with
  | @word ps build tokens a text token spelled others =>
    rintro nothing
    have empty : token = [] := (List.append_eq_nil_iff.mp nothing).1
    rw [empty] at spelled
    have textEmpty : text.toList = [] := spelled.symm
    simp [Piece.characters, textEmpty] at starts
  | _ => cases starts

/-- A command is not spelled by nothing, for it has a keyword. -/
theorem Command.Spelled.flatten_ne_nil {command : Command} {tokens : List Token}
    (spelled : command.Spelled tokens) :
    tokens.flatten ≠ [] := by
  obtain ⟨f, mem, spells⟩ := Command.spelled_iff.mp spelled
  have keywords : ∀ f ∈ Form.all, f.pieces.head?.any fun p => !p.characters.isEmpty := by decide
  exact Assembly.flatten_ne_nil spells (keywords f mem)

namespace Scan

theorem reads_statement :
    Reads statement fun items spelled =>
      ∃ spellings, List.Forall₂ Item.Spelled items spellings ∧ spelled = spellings.flatten.flatten ∧
        spelled ≠ [] := by
  refine reads_label.optional.bind fun label labelSpelled labelHolds => ?_
  have comments : Reads (optional comment) fun _ spelled => spelled = [] :=
    reads_comment.optional.mono fun result spelled holds => by cases result <;> exact holds
  refine comments.silent_bind fun _ => ?_
  refine reads_command.bind fun command spelled ⟨tokens, spells, taken⟩ => ?_
  refine reads_comments.silent_bind fun _ => reads_separators.silent_bind fun _ => .pure _ ?_
  -- Comments are spelled by nothing, so a label and a command are all there is.
  subst taken
  have nonempty := spells.flatten_ne_nil
  cases label with
  | none =>
    subst labelHolds
    refine ⟨[tokens], .cons (.command spells) .nil, by simp, ?_⟩
    rwa [List.append_nil]
  | some name =>
    obtain ⟨token, spellsName, rfl⟩ := labelHolds
    refine ⟨[[token, [':']], tokens],
      .cons (.label spellsName) (.cons (.command spells) .nil), by simp, ?_⟩
    intro nothing
    have tokensNothing := (List.append_eq_nil_iff.mp nothing).2
    rw [List.append_nil] at tokensNothing
    exact nonempty tokensNothing

theorem length_lt_of_bare {c c' : Cursor} {spelled : List Char} (leads : c.Leads c')
    (same : bare c.rest = spelled ++ bare c'.rest) (nonempty : spelled ≠ []) :
    c'.rest.length < c.rest.length := by
  obtain ⟨taken, ahead, _⟩ := leads
  cases taken with
  | nil =>
    rw [ahead, List.nil_append] at same
    exact absurd (List.self_eq_append_left.mp same) nonempty
  | cons x taken =>
    rw [ahead, List.cons_append, List.length_cons, List.length_append]
    omega

/-- What is left of a line has at least one character. -/
theorem line_passes (c c' : Cursor) (text : String) (found : line c = some (text, c')) :
    c.Leads c' ∧ c'.rest.length < c.rest.length := by
  obtain ⟨_, c₀, separated, found⟩ := (bind_eq_some_iff _ _ c c' text).mp found
  obtain ⟨taken, c₁, foundText, done⟩ := (bind_eq_some_iff _ _ c₀ c' text).mp found
  obtain ⟨_, rfl⟩ := Prod.mk.inj (Option.some.inj done)
  obtain ⟨leads, _⟩ := reads_separators c _ c₀ separated
  rw [someOf_eq] at foundText
  split at foundText
  · cases foundText
  · next nonempty =>
    obtain ⟨-, rfl⟩ := Prod.mk.inj (Option.some.inj foundText)
    have split : c₀.rest = c₀.rest.takeWhile (· != '\n') ++ c₀.rest.dropWhile (· != '\n') :=
      List.takeWhile_append_dropWhile.symm
    refine ⟨leads.trans (leads_move c₀ _ _ split), ?_⟩
    have lengths := congrArg List.length split
    rw [List.length_append] at lengths
    have some := List.length_pos_iff.mpr fun nothing => nonempty (List.isEmpty_iff.mpr nothing)
    have before := leads.length_le
    change (c₀.rest.dropWhile (· != '\n')).length < c.rest.length
    omega

/-- Every stretch takes text away. -/
theorem stretch_shortens (c c' : Cursor) (items : List Item)
    (found : stretch c = some (items, c')) :
    c.Leads c' ∧ c'.rest.length < c.rest.length := by
  obtain ⟨p, mem, found⟩ := exists_of_longest _ c c' items found
  simp only [List.mem_cons, List.not_mem_nil, or_false] at mem
  obtain rfl | rfl | rfl | rfl := mem
  · obtain ⟨leads, spelled, ⟨_, _, _, nonempty⟩, same⟩ := reads_statement c items c' found
    exact ⟨leads, length_lt_of_bare leads same nonempty⟩
  · obtain ⟨name, c'', foundLabel, done⟩ := (bind_eq_some_iff _ _ c c' items).mp found
    obtain ⟨rfl, rfl⟩ := Prod.mk.inj (Option.some.inj done)
    obtain ⟨leads, _, ⟨token, _, rfl⟩, same⟩ := reads_label c name c'' foundLabel
    refine ⟨leads, length_lt_of_bare leads same ?_⟩
    exact List.append_ne_nil_of_right_ne_nil _ (List.cons_ne_nil _ _)
  · obtain ⟨_, c'', foundComment, done⟩ := (bind_eq_some_iff _ _ c c' items).mp found
    obtain ⟨_, rfl⟩ := Prod.mk.inj (Option.some.inj done)
    obtain ⟨leads, shorter, _⟩ := comment_passes c c'' _ foundComment
    exact ⟨leads, shorter⟩
  · obtain ⟨text, c'', foundLine, done⟩ := (bind_eq_some_iff _ _ c c' items).mp found
    obtain ⟨_, rfl⟩ := Prod.mk.inj (Option.some.inj done)
    exact line_passes c c'' text foundLine

/-- A stretch that is not unknown takes no more text away than its items spell. -/
theorem stretch_passes (c c' : Cursor) (items : List Item) (found : stretch c = some (items, c'))
    (known : ∀ text, Item.unknown text ∉ items) :
    ∃ spellings, List.Forall₂ Item.Spelled items spellings ∧
      bare c.rest = spellings.flatten.flatten ++ bare c'.rest := by
  obtain ⟨p, mem, found⟩ := exists_of_longest _ c c' items found
  simp only [List.mem_cons, List.not_mem_nil, or_false] at mem
  obtain rfl | rfl | rfl | rfl := mem
  · obtain ⟨_, spelled, ⟨spellings, spells, rfl, _⟩, same⟩ := reads_statement c items c' found
    exact ⟨spellings, spells, same⟩
  · obtain ⟨name, c'', foundLabel, done⟩ := (bind_eq_some_iff _ _ c c' items).mp found
    obtain ⟨rfl, rfl⟩ := Prod.mk.inj (Option.some.inj done)
    obtain ⟨_, _, ⟨token, spells, rfl⟩, same⟩ := reads_label c name c'' foundLabel
    refine ⟨[[token, [':']]], .cons (.label spells) .nil, ?_⟩
    rw [same]
    simp
  · obtain ⟨_, c'', foundComment, done⟩ := (bind_eq_some_iff _ _ c c' items).mp found
    obtain ⟨rfl, rfl⟩ := Prod.mk.inj (Option.some.inj done)
    obtain ⟨_, _, same⟩ := comment_passes c c'' _ foundComment
    exact ⟨[], .nil, same⟩
  · obtain ⟨text, c'', foundLine, done⟩ := (bind_eq_some_iff _ _ c c' items).mp found
    obtain ⟨rfl, _⟩ := Prod.mk.inj (Option.some.inj done)
    exact absurd List.mem_cons_self (known text)

/-- A line is read from the first character that is no blank to its end. -/
theorem line_of_first {c : Cursor} {gap more : List Char} {x : Char}
    (blank : ∀ y ∈ gap, isSeparator y) (notSeparator : isSeparator x = false)
    (ahead : c.rest = gap ++ x :: more) :
    line c = some (String.ofList (x :: more.takeWhile (· != '\n')),
      c.move (gap ++ x :: more.takeWhile (· != '\n')) (more.dropWhile (· != '\n'))) := by
  have notEnd : (x != '\n') = true := by
    rw [bne_iff_ne]
    rintro rfl
    cases notSeparator
  have passed : separators c = some ((), c.move gap (x :: more)) := by
    rw [separators_eq, ahead, List.takeWhile_append_of_pos blank,
      List.dropWhile_append_of_pos blank, List.takeWhile_cons_of_neg (by rw [notSeparator]; nofun),
      List.dropWhile_cons_of_neg (by rw [notSeparator]; nofun), List.append_nil]
  have first : (x :: more).takeWhile (· != '\n') = x :: more.takeWhile (· != '\n') :=
    List.takeWhile_cons_of_pos notEnd
  have others : (x :: more).dropWhile (· != '\n') = more.dropWhile (· != '\n') :=
    List.dropWhile_cons_of_pos notEnd
  have found := someOf_eq (· != '\n') (c.move gap (x :: more))
  rw [Cursor.move_rest, first, others] at found
  rw [line, bind_of_eq_some _ passed, bind_of_eq_some _ found, Cursor.move_move]
  rfl

/-- Where there is no stretch, there is nothing but blanks and line ends. -/
theorem dropWhile_eq_nil_of_stretch (c : Cursor) (missing : stretch c = none) :
    c.rest.dropWhile isSeparator = [] := by
  have noLine := eq_none_of_longest _ c missing (do return [.unknown (← line)]) (by simp)
  cases ahead : c.rest.dropWhile isSeparator with
  | nil => rfl
  | cons x rest =>
    have notSeparator : isSeparator x = false := by
      have first := List.head?_dropWhile_not isSeparator c.rest
      rw [ahead] at first
      exact first
    have found := line_of_first (fun y mem => List.mem_takeWhile_imp mem) notSeparator
      (ahead ▸ List.takeWhile_append_dropWhile.symm)
    rw [bind_of_eq_some _ found] at noLine
    cases noLine

theorem bare_eq_nil_of_stretch (c : Cursor) (missing : stretch c = none) : bare c.rest = [] := by
  have split : c.rest = c.rest.takeWhile isSeparator ++ [] := by
    rw [← dropWhile_eq_nil_of_stretch c missing]
    exact List.takeWhile_append_dropWhile.symm
  rw [split]
  exact bare_separators_append _ _ fun x mem => List.mem_takeWhile_imp mem

/-- If none of them is unknown, the stretches use a text up. -/
theorem stretches_pass (limit : Nat) (c : Cursor) (enough : c.rest.length ≤ limit)
    (known : ∀ text, Item.unknown text ∉ stretches limit c) :
    ∃ spellings, List.Forall₂ Item.Spelled (stretches limit c) spellings ∧
      bare c.rest = spellings.flatten.flatten := by
  induction limit generalizing c with
  | zero =>
    have nothing : c.rest = [] := List.eq_nil_of_length_eq_zero (Nat.le_zero.mp enough)
    rw [nothing]
    exact ⟨[], .nil, rfl⟩
  | succ limit ih =>
    rw [stretches] at known ⊢
    cases found : stretch c with
    | none => exact ⟨[], .nil, bare_eq_nil_of_stretch c found⟩
    | some result =>
      obtain ⟨items, c'⟩ := result
      rw [found] at known
      simp only [List.mem_append, not_or] at known
      -- The stretch takes its own spellings away and leaves those of the others.
      have shorter := (stretch_shortens c c' items found).2
      obtain ⟨spellings, spells, same⟩ :=
        stretch_passes c c' items found fun text => (known text).1
      obtain ⟨others, spellsOthers, sameThen⟩ := ih c' (by omega) fun text => (known text).2
      refine ⟨spellings ++ others, List.rel_append spells spellsOthers, ?_⟩
      rw [same, sameThen, List.flatten_append, List.flatten_append]

end Scan

end ChipEight.Assembly
