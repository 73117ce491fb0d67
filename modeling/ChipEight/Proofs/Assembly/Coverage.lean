import ChipEight.Proofs.Assembly.RowReading

/-!
# No text is ignored

A text that is assembled is made of labels and commands, and of nothing else but comments and
blanks; the program is the one that the reference makes of them. A text that is not made so fails.
The error is about the program then, unless there is a number with too many digits in it: such
numbers are looked at first.
-/

namespace ChipEight.Assembly

open Reference

/-- Whether a text is made of items: without comments and blanks, it is their spellings one after
    the other. -/
def MadeOf (text : List Char) (items : List Item) : Prop :=
  ∃ spellings, List.Forall₂ Item.Spelled items spellings ∧ bare text = spellings.flatten.flatten

/-- A text whose items are all known is made of them. -/
theorem madeOf_itemsOf (text : String) (known : ∀ unknown, Item.unknown unknown ∉ itemsOf text) :
    MadeOf text.toList (itemsOf text) := by
  obtain ⟨spellings, spells, same⟩ :=
    Scan.stretches_pass _ (.start (Text.Tabs.expand text.toList)) (Nat.le_refl _) known
  refine ⟨spellings, spells, ?_⟩
  rw [← bare_expand]
  exact same

/-- The first character of a text that is made of items belongs to a word. -/
theorem isKeywordChar_of_madeOf {text : List Char} {items : List Item} (made : MadeOf text items) :
    ∀ x ∈ (bare text).head?, isKeywordChar x := by
  obtain ⟨spellings, spells, same⟩ := made
  rw [same]
  cases spells with
  | nil => nofun
  | @cons item tokens _ spellings spelled _ =>
    obtain ⟨token, others, rfl, nonempty, keywordChars⟩ :
        ∃ token others, tokens = token :: others ∧ token ≠ [] ∧ ∀ x ∈ token, isKeywordChar x := by
      -- A label begins with its name, a command with the keyword of its form.
      cases spelled with
      | @label name token spelled =>
        exact ⟨token, [[':']], rfl, spelled.isSolid.1, spelled.isKeywordChar⟩
      | @command command _ spelled =>
        obtain ⟨⟨pieces, build⟩, mem, spells⟩ := Command.spelled_iff.mp spelled
        obtain ⟨word, qs, rfl⟩ := exists_word_of_isHeaded (headed_forms _ mem)
        have proper := (proper_forms _ mem).1 (.word word) List.mem_cons_self
        cases spells with
        | @word _ _ others _ _ token isWord _ =>
          exact ⟨token, others, rfl, (isSolid_of_keyword proper isWord).1,
            Scan.isKeywordChar_of_keyword proper isWord⟩
    cases token with
    | nil => exact absurd rfl nonempty
    | cons x token =>
      rintro _ ⟨⟩
      exact keywordChars x List.mem_cons_self

/-- A text that is assembled is made of items whose program it is. A text that is not made of items
    fails, and with an error about the program exactly if no number is too long. -/
theorem assembleText_covers (text : String) :
    (∀ program, assembleText text = .ok program → ∃ items, MadeOf text.toList items ∧
    assemble? items = some program) ∧
      ((¬ ∃ items, MadeOf text.toList items) →
        ∃ e, assembleText text = .error e ∧ (e.isOwn ↔ ¬ TooLong (itemsOf text))) := by
  have covered (program : List UInt8) (assembled : assembleText text = .ok program) :
      ∃ items, MadeOf text.toList items ∧ assemble? items = some program := by
    have found := assemble?_of_assembleText text program assembled
    exact ⟨itemsOf text, madeOf_itemsOf text (known_of_assemble? found), found⟩
  refine ⟨covered, fun notMade => ?_⟩
  cases result : assembleText text with
  | ok program =>
    obtain ⟨items, made, _⟩ := covered program result
    exact absurd ⟨items, made⟩ notMade
  | error e => exact ⟨e, rfl, isOwn_iff_of_assembleText text e result⟩

theorem itemsOf_unknown_data (digits : List Char) (nonempty : digits ≠ [])
    (areDigits : ∀ x ∈ digits, x.isDigit) :
    itemsOf (String.ofList ("?\nDB ".toList ++ digits)) =
      [.unknown "?", .command (.data [⟨.decimal, digits⟩])] := by
  have noTab : '\t' ∉ "?\nDB ".toList ++ digits := by
    rw [List.mem_append, not_or]
    exact ⟨by decide, fun mem => absurd (areDigits _ mem) (by decide)⟩
  have spelled : SpellsLiteral ⟨.decimal, digits⟩ digits :=
    .decimal digits nonempty ((Numeral.areDigits_iff .decimal).mpr areDigits)
  have spells : (Command.data [⟨.decimal, digits⟩]).Spelled ["DB".toList, digits] :=
    ⟨List.cons_ne_nil _ _, spellsLine_one_iff.mpr ⟨_, _, spellsWord_self "DB", spelled, rfl⟩⟩
  have spaced : Spaced true ["DB".toList, digits]
      (['\n'] ++ "DB".toList ++ ([' '] ++ digits ++ [])) :=
    .cons ['\n'] (List.forall_mem_singleton.mpr rfl) nofun
      (.cons [' '] (List.forall_mem_singleton.mpr rfl) nofun .nil)
  have rows : Rows [⟨none, some (.data [⟨.decimal, digits⟩]), .nothing⟩]
      ("\nDB ".toList ++ digits) := by
    have written := Rows.command spells spaced .nothing (fun _ mem => by cases mem)
      (.nil (List.forall_mem_nil _))
    simpa using written
  -- The first line is a stretch of its own. Behind it, the text is one of lines.
  have found : Scan.stretch (.start ("?\nDB ".toList ++ digits)) =
      some ([.unknown "?"],
        (Cursor.start ("?\nDB ".toList ++ digits)).move ['?'] ("\nDB ".toList ++ digits)) := by
    have ahead : (Cursor.start ("?\nDB ".toList ++ digits)).rest =
        '?' :: ("\nDB ".toList ++ digits) := rfl
    exact Scan.stretch_of_unknown rfl (by decide) (by decide) ahead
  have rest : Scan.stretches ("\nDB ".toList ++ digits).length
      ((Cursor.start ("?\nDB ".toList ++ digits)).move ['?'] ("\nDB ".toList ++ digits)) =
        [.command (.data [⟨.decimal, digits⟩])] := by
    have fresh : ((Cursor.start ("?\nDB ".toList ++ digits)).move ['?']
        ("\nDB ".toList ++ digits)).Fresh := by
      apply fresh_of_blank
      rintro _ ⟨⟩
      rfl
    exact (Scan.stretches_of_rows (c := (Cursor.start _).move ['?'] _) _ rows fresh
      (Nat.le_refl _)).1 rfl
  rw [itemsOf, String.toList_ofList, Text.Tabs.expand_eq_self _ noTab, Item.ofText]
  change Scan.stretches (("\nDB ".toList ++ digits).length + 1) _ = _
  rw [Scan.stretches, found]
  exact congrArg (.unknown "?" :: ·) rest

theorem tooLong_of_digits (digits : List Char) (areDigits : ∀ x ∈ digits, x.isDigit)
    (long : Decimal.digitLimit < digits.length) :
    TooLong (itemsOf (String.ofList ("?\nDB ".toList ++ digits))) := by
  have nonempty : digits ≠ [] := by
    rintro rfl
    cases long
  rw [itemsOf_unknown_data digits nonempty areDigits]
  refine .inl ⟨_, List.mem_cons_of_mem _ List.mem_cons_self, ⟨.decimal, digits⟩, List.mem_cons_self,
    ?_⟩
  exact decide_eq_false (Nat.not_le.mpr long)

/-- The error is not always about the program: here nothing could begin with the first character,
    but the number behind it has more digits than can be read. -/
theorem assembleText_covers_long :
    (¬ ∃ items, MadeOf (String.ofList ("?\nDB ".toList ++ List.replicate 4301 '1')).toList items) ∧
      assembleText (String.ofList ("?\nDB ".toList ++ List.replicate 4301 '1')) =
        .error .numberTooLong := by
  have notMade : ¬ ∃ items, MadeOf
      (String.ofList ("?\nDB ".toList ++ List.replicate 4301 '1')).toList items := by
    rintro ⟨items, made⟩
    rw [String.toList_ofList] at made
    have first : '?' ∈ (bare ("?\nDB ".toList ++ List.replicate 4301 '1')).head? := by
      have same := bare_cons '?' ("\nDB ".toList ++ List.replicate 4301 '1') (by decide)
      exact same ▸ rfl
    exact absurd (isKeywordChar_of_madeOf made '?' first) (by decide)
  have tooLong : TooLong (itemsOf (String.ofList ("?\nDB ".toList ++ List.replicate 4301 '1'))) :=
    by
    apply tooLong_of_digits
    · intro x mem
      rw [List.eq_of_mem_replicate mem]
      rfl
    · rw [List.length_replicate]
      decide
  refine ⟨notMade, ?_⟩
  obtain ⟨e, failed, kind⟩ :=
    (assembleText_covers (String.ofList ("?\nDB ".toList ++ List.replicate 4301 '1'))).2 notMade
  obtain own | rfl := isOwn_of_assembleText _ e failed
  · exact absurd tooLong (kind.mp own)
  · exact failed

end ChipEight.Assembly
