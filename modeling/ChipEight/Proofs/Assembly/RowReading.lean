import ChipEight.Proofs.Assembly.Rows
import ChipEight.Proofs.Assembly.Stretches

/-!
# Rows are read

Legible rows are read as the items on them, and of rows that are not legible some part is unknown.
What a stretch makes of the rows ahead depends on the next row that holds an item: `Attempt` says
what comes of trying for a command there, and `Step` what a whole stretch comes to.
-/

namespace ChipEight.Assembly

/-- Whether the rows ahead of a cursor are those that are left of `rows` when `items` have been
    read. -/
def Leaves (rows : List Row) (items : List Item) (c : Cursor) : Prop :=
  ∃ others, Rows others c.rest ∧ c.Fresh ∧
    rows.flatMap Row.items = items ++ others.flatMap Row.items ∧
    legible false rows = legible false others

/-- What comes of trying for a command where rows are ahead, if `row?` is the first of them with an
    item on it. -/
inductive Attempt (label : List Item) (rows : List Row) (row? : Option Row) :
    Option (List Item × Cursor) → Prop
  | command {command : Command} {c' : Cursor} (isCommand : row?.any Row.isCommand)
    (leaves : Leaves rows [.command command] c') :
    Attempt label rows row? (some (label ++ [.command command], c'))
  /-- The command is the label of the row, and its colon is left. -/
  | misread {items : List Item} {c' : Cursor} (misleads : row?.any Row.misleads)
    (colon : c'.rest.head? = some ':') :
    Attempt label rows row? (some (items, c'))
  | nothing (noCommand : row?.any Row.isCommand = false)
    (honest : row?.any Row.misleads = false) :
    Attempt label rows row? none

/-- What a stretch comes to where rows are ahead. -/
inductive Step (rows : List Row) : Option (List Item × Cursor) → Prop
  | finished (nothing : rows.flatMap Row.items = []) (isLegible : legible false rows) :
    Step rows none
  | advances {items : List Item} {c' : Cursor} (leaves : Leaves rows items c') :
    Step rows (some (items, c'))
  | stuck {items : List Item} {c' : Cursor} (notLegible : legible false rows = false)
    (unknown : (∃ text, .unknown text ∈ items) ∨ c'.rest.head? = some ':') :
    Step rows (some (items, c'))

variable {rows : List Row} {tail : Tail}

/-! ## Rows without items -/

theorem Leaves.blank {items : List Item} {c : Cursor} (leaves : Leaves rows items c)
    (noComment : tail ≠ .comment) : Leaves (⟨none, none, tail⟩ :: rows) items c := by
  rw [Leaves, legible_blank false noComment]
  exact leaves

theorem Leaves.comment {items : List Item} {c : Cursor} (leaves : Leaves rows items c)
    (honest : (upcoming? 0 rows).any Row.misleads = false) :
    Leaves (⟨none, none, .comment⟩ :: rows) items c := by
  rw [Leaves, legible_comment false honest]
  exact leaves

theorem Leaves.label {items : List Item} {c : Cursor} (leaves : Leaves rows items c) (name : String)
    (sameLegible : legible false (⟨some name, none, tail⟩ :: rows) = legible false rows) :
    Leaves (⟨some name, none, tail⟩ :: rows) (.label name :: items) c := by
  obtain ⟨others, left, fresh, same, sameThen⟩ := leaves
  refine ⟨others, left, fresh, ?_, sameLegible.trans sameThen⟩
  rw [List.flatMap_cons, same]
  rfl

/-- Behind a row with a command, the rows without items that come next are passed, too. -/
theorem leaves_of_command {c : Cursor} (label : Option String) (command : Command) (tail : Tail)
    (left : Rows (rows.dropWhile Row.isEmpty) c.rest) (fresh : c.Fresh) :
    Leaves (⟨label, some command, tail⟩ :: rows)
      ((label.map Item.label).toList ++ [.command command]) c := by
  refine ⟨_, left, fresh, ?_, legible_true rows⟩
  rw [flatMap_dropWhile, List.flatMap_cons]
  rfl

theorem Attempt.blank {label : List Item} {row? : Option Row} {result : Option (List Item × Cursor)}
    (attempt : Attempt label rows row? result) (noComment : tail ≠ .comment) :
    Attempt label (⟨none, none, tail⟩ :: rows) row? result := by
  cases attempt with
  | command isCommand leaves => exact .command isCommand (leaves.blank noComment)
  | misread misleads colon => exact .misread misleads colon
  | nothing noCommand honest => exact .nothing noCommand honest

theorem Step.blank {result : Option (List Item × Cursor)} (step : Step rows result)
    (noComment : tail ≠ .comment) : Step (⟨none, none, tail⟩ :: rows) result := by
  have same : legible false (⟨none, none, tail⟩ :: rows) = legible false rows :=
    legible_blank false noComment
  cases step with
  | finished nothing isLegible => exact .finished nothing (same.trans isLegible)
  | advances leaves => exact .advances (leaves.blank noComment)
  | stuck notLegible unknown => exact .stuck (same.trans notLegible) unknown

/-! ## Commands and misleading labels -/

theorem isCommand_eq_false_of_misleads {row? : Option Row} (misleads : row?.any Row.misleads) :
    row?.any Row.isCommand = false := by
  cases row? with
  | none => rfl
  | some row =>
    obtain ⟨label, command, tail⟩ := row
    cases label with
    | none => cases misleads
    | some name => rfl

theorem misleads_eq_false_of_isCommand {row? : Option Row} (isCommand : row?.any Row.isCommand) :
    row?.any Row.misleads = false := by
  rw [Bool.eq_false_iff]
  intro misleads
  rw [isCommand_eq_false_of_misleads misleads] at isCommand
  cases isCommand

/-- A token that is a command by itself is spelled as one. -/
theorem exists_spelled_of_misleads {token : Token} (isCommand : ¬ NotCommand token) :
    ∃ command : Command, command.Spelled [token] := by
  by_cases isClear : SpellsWord "CLS" token
  · exact ⟨.operation .clear, spellsLine_zero_iff.mpr ⟨token, isClear, rfl⟩⟩
  · have isReturn : SpellsWord "RET" token :=
      not_not.mp fun notReturn => isCommand ⟨isClear, notReturn⟩
    exact ⟨.operation .ret, spellsLine_zero_iff.mpr ⟨token, isReturn, rfl⟩⟩

namespace Scan

variable {c c₁ c' : Cursor} {gap text tailText rest : List Char}

/-! ## Comments and blanks -/

/-- There is no comment where the next row holds an item. -/
theorem comment_eq_none_of_item {row : Row} (isText : Rows (row :: rows) c.rest)
    (item : row.isEmpty = false) : comment c = none := by
  generalize ahead : c.rest = text at isText
  cases isText with
  | blank _ _ | comment _ _ _ _ => cases item
  | label blank spells spaced _ _ _ _ =>
    refine comment_eq_none_of_solid spells.isSolid ?_
    rw [ahead, next_append blank, spaced.next_eq spells.isSolid]
  | command spells spaced _ _ _ =>
    obtain ⟨token, others, rfl, solid⟩ := spells.head
    refine comment_eq_none_of_solid solid ?_
    rw [ahead, spaced.next_eq solid]
  | labelled spells labelSpaced _ _ _ _ _ =>
    refine comment_eq_none_of_solid spells.isSolid ?_
    rw [ahead, labelSpaced.next_eq spells.isSolid]

/-- All comments are read up to the next row with an item on it. -/
theorem comments_of_rows (limit : Nat) (isText : Rows rows c.rest) (enough : c.rest.length ≤ limit)
    (blankFirst : ∀ x ∈ c.rest.head?, isSeparator x) :
    ∃ results c', many comment limit c = some (results, c') ∧ c.Leads c' ∧
      Rows (rows.dropWhile Row.isEmpty) c'.rest ∧ ∀ x ∈ c'.rest.head?, isSeparator x := by
  -- Induction on the rows: a comment is one of them, and the first item ends the comments.
  induction rows generalizing c limit with
  | nil =>
    have missing : comment c = none := by
      apply comment_eq_none
      cases isText with
      | nil blank =>
        rw [next_eq_none blank]
        nofun
    exact ⟨[], c, many_eq_nil missing limit, .refl c, isText, blankFirst⟩
  | cons row rows ih =>
    cases item : row.isEmpty with
    | false =>
      rw [List.dropWhile_cons_of_neg (Bool.eq_false_iff.mp item)]
      exact ⟨[], c, many_eq_nil (comment_eq_none_of_item isText item) limit, .refl c, isText,
        blankFirst⟩
    | true =>
      rw [List.dropWhile_cons_of_pos item]
      generalize ahead : c.rest = text at isText
      cases isText with
      | label _ _ _ _ _ _ _ | command _ _ _ _ _ | labelled _ _ _ _ _ _ _ => cases item
      | blank _ others => exact ih limit (ahead ▸ others) enough blankFirst
      | @comment gap text rest _ blank inLine endsLine others =>
        have found := comment_of_ahead blank inLine ahead endsLine
        have longer : rest.length < c.rest.length := by
          rw [ahead]
          simp only [List.length_append, List.length_cons]
          omega
        cases limit with
        | zero => omega
        | succ limit =>
          obtain ⟨results, c', more, leads, left, blankLast⟩ :=
            ih (c := c.move (gap ++ '/' :: '/' :: text) rest) limit others
              (Nat.le_of_lt_succ (Nat.lt_of_lt_of_le longer enough)) endsLine.blank
          refine ⟨() :: results, c', ?_, (leads_move c _ rest ahead).trans leads, left, blankLast⟩
          rw [many, bind_of_eq_some _ (optional_of_eq_some found)]
          exact bind_of_eq_some _ more

/-- Behind a command, what else is on its line is passed, and all rows without items after it. -/
theorem remark_of_rows (tails : tail.Spells tailText) (endsLine : EndsLine rest)
    (isText : Rows rows rest) (ahead : c.rest = tailText ++ rest) :
    ∃ results c₁ c', all comment c = some (results, c₁) ∧ separators c₁ = some ((), c') ∧
      c'.rest.length ≤ rest.length ∧ Rows (rows.dropWhile Row.isEmpty) c'.rest ∧ c'.Fresh := by
  cases tails.remark with
  | blank blank =>
    have allBlank : ∀ x ∈ c.rest.head?, isSeparator x := by
      rw [ahead]
      cases tailText with
      | nil => exact endsLine.blank
      | cons x tailText =>
        rintro _ ⟨⟩
        exact blank x List.mem_cons_self
    obtain ⟨results, c₁, found, leads, left, blankThen⟩ :=
      comments_of_rows _ (ahead ▸ isText.prepend blank) (Nat.le_refl _) allBlank
    obtain ⟨c', passed, leadsThen, dropped, fresh⟩ := separators_of_blank blankThen
    refine ⟨results, c₁, c', found, passed, ?_, dropped ▸ left.dropWhile, fresh⟩
    exact length_le_of_stops blank ahead (leads.trans leadsThen) (dropped ▸ head?_dropWhile c₁.rest)
  | @comment gap text blank inLine =>
    have found := comment_of_ahead blank inLine ahead endsLine
    have positive : c.rest.length = c.rest.length - 1 + 1 := by
      rw [ahead]
      simp only [List.length_append, List.length_cons]
      omega
    obtain ⟨results, c₁, more, leads, left, blankThen⟩ :=
      comments_of_rows (c := c.move (gap ++ '/' :: '/' :: text) rest) (c.rest.length - 1) isText
        (by
          change rest.length ≤ _
          rw [ahead]
          simp only [List.length_append, List.length_cons]
          omega) endsLine.blank
    obtain ⟨c', passed, leadsThen, dropped, fresh⟩ := separators_of_blank blankThen
    refine ⟨() :: results, c₁, c', ?_, passed, (leads.trans leadsThen).length_le,
      dropped ▸ left.dropWhile, fresh⟩
    change many comment c.rest.length c = _
    rw [positive, many, bind_of_eq_some _ (optional_of_eq_some found)]
    exact bind_of_eq_some _ more

/-! ## Attempts -/

/-- A command is read with what else is on its line. -/
theorem uncommented_of_row {command : Command} {tokens : List Token} (label : Option String)
    (spells : command.Spelled tokens) (spaced : Spaced true tokens text)
    (tails : tail.Spells tailText) (endsLine : EndsLine rest) (isText : Rows rows rest)
    (ahead : c.rest = text ++ (tailText ++ rest)) (fresh : c.Fresh) :
    ∃ c', uncommented label c = some ((label.map Item.label).toList ++ [.command command], c') ∧
      c'.rest.length ≤ rest.length ∧ Rows (rows.dropWhile Row.isEmpty) c'.rest ∧ c'.Fresh := by
  have line := isText.cons (.empty tails) endsLine
  have found := command_of_ahead spells spaced ahead (fun _ => fresh) (tails.remark.ends endsLine)
    (line.next_ne (by decide) (by decide))
  obtain ⟨results, c₁, c', foundComments, passed, shorter, left, freshThen⟩ :=
    remark_of_rows (c := c.move text (tailText ++ rest)) tails endsLine isText rfl
  refine ⟨c', ?_, shorter, left, freshThen⟩
  rw [uncommented, bind_of_eq_some _ found, bind_of_eq_some _ foundComments,
    bind_of_eq_some _ passed]
  rfl

/-- A label that is a command by itself is read as one, up to its colon. -/
theorem uncommented_of_misleads {name : String} {token : Token} (label : Option String)
    (spells : SpellsName name token) (isCommand : ¬ NotCommand token)
    (spaced : Spaced true [token, [':']] text) (ahead : c.rest = text ++ rest) (fresh : c.Fresh) :
    ∃ items c', uncommented label c = some (items, c') ∧ c'.rest.head? = some ':' := by
  obtain ⟨command, spelled⟩ := exists_spelled_of_misleads isCommand
  obtain _ | @⟨_, _, _, text, gap, blank, apart, spaced⟩ := spaced
  rw [spells.isSolid.isMark_eq_false] at spaced
  have colon := next_of_label spaced rest
  have alone : Spaced true [token] (gap ++ token) := by
    rw [← List.append_nil (gap ++ token)]
    exact .cons gap blank (fun nothing => .inl rfl) .nil
  rw [List.append_assoc] at ahead
  have found := command_of_ahead spelled alone ahead (fun _ => fresh) (ends_of_label spaced rest)
    (by rw [colon]; decide)
  have noComment : comment (c.move (gap ++ token) (text ++ rest)) = none := by
    apply comment_eq_none
    change next (text ++ rest) ≠ some '/'
    rw [colon]
    decide
  have noComments : all comment (c.move (gap ++ token) (text ++ rest)) = some ([], _) :=
    many_eq_nil noComment _
  refine ⟨(label.map Item.label).toList ++ [.command command],
    (c.move (gap ++ token) (text ++ rest)).move ((text ++ rest).takeWhile isSeparator)
      ((text ++ rest).dropWhile isSeparator), ?_, colon⟩
  rw [uncommented, bind_of_eq_some _ found, bind_of_eq_some _ noComments]
  exact bind_of_eq_some _ (separators_eq _)

theorem attempt_of_label {name : String} {token : Token} {row : Row} (label : Option String)
    (spells : SpellsName name token) (spaced : Spaced true [token, [':']] text)
    (isLabel : row.label = some name) (ahead : c.rest = text ++ rest) (fresh : c.Fresh) :
    Attempt (label.map Item.label).toList (row :: rows) (some row) (uncommented label c) := by
  obtain ⟨_, command, tail⟩ := row
  subst isLabel
  by_cases notCommand : NotCommand token
  · rw [uncommented_eq_none label
      (command_eq_none_of_label spells notCommand spaced ahead fun _ => fresh)]
    refine .nothing rfl (Bool.eq_false_iff.mpr fun misleads => ?_)
    exact (misleads_iff spells command tail).mp misleads notCommand
  · obtain ⟨items, c', found, colon⟩ :=
      uncommented_of_misleads label spells notCommand spaced ahead fresh
    rw [found]
    exact .misread ((misleads_iff spells command tail).mpr notCommand) colon

/-- Where rows are ahead, a command is found if the next of them is one. -/
theorem uncommented_of_rows (label : Option String) (isText : Rows rows c.rest) (fresh : c.Fresh) :
    Attempt (label.map Item.label).toList rows (upcoming? 0 rows) (uncommented label c) := by
  generalize ahead : c.rest = text at isText
  induction isText with
  | @nil gap blank =>
    rw [uncommented_eq_none label (command_eq_none_of_next ?_)]
    · exact .nothing rfl rfl
    · rw [ahead, next_eq_none blank]
      nofun
  | blank noComment _ ih =>
    rw [upcoming?_blank 0 noComment]
    exact (ih ahead).blank noComment
  | comment blank _ _ _ _ =>
    rw [uncommented_eq_none label (command_eq_none_of_next ?_)]
    · exact .nothing rfl rfl
    · rw [ahead, List.append_assoc, next_append blank, List.cons_append, next_cons (by decide)]
      rintro x ⟨⟩
      decide
  | label blank spells spaced _ _ _ _ _ =>
    rw [← List.append_assoc] at ahead
    exact attempt_of_label label spells (spaced.prepend blank) rfl ahead fresh
  | labelled spells labelSpaced _ _ _ _ _ _ =>
    exact attempt_of_label label spells labelSpaced rfl ahead fresh
  | @command command tokens text tailText rest tail rows spells spaced tails endsLine others _ =>
    obtain ⟨c', found, _, left, freshThen⟩ :=
      uncommented_of_row label spells spaced tails endsLine others ahead fresh
    rw [found]
    exact .command rfl (leaves_of_command none command tail left freshThen)

section Comment

variable (label : Option String) (blank : ∀ x ∈ gap, isSeparator x) (inLine : '\n' ∉ text)
  (endsLine : EndsLine rest) (ahead : c.rest = gap ++ '/' :: '/' :: text ++ rest)

include blank inLine endsLine ahead

/-- The comment in front of a command takes its line, and the rows after it decide. -/
theorem attempt_of_comment (isText : Rows rows rest) :
    Attempt (label.map Item.label).toList rows (upcoming? 0 rows) (unlabelled label c) := by
  rw [unlabelled_of_comment label (comment_of_ahead blank inLine ahead endsLine)]
  exact uncommented_of_rows (c := c.move (gap ++ '/' :: '/' :: text) rest) label isText
    (fresh_of_blank endsLine.blank)

theorem length_le_of_comment {items : List Item}
    (found : unlabelled label c = some (items, c')) : c'.rest.length ≤ rest.length := by
  rw [unlabelled_of_comment label (comment_of_ahead blank inLine ahead endsLine)] at found
  exact (reads_uncommented _ _ items c' found).1.length_le

end Comment

/-- Behind a label, there may be a comment in front of the command. -/
theorem unlabelled_of_rows (label : Option String) (isText : Rows rows c.rest) (fresh : c.Fresh) :
    Attempt (label.map Item.label).toList rows (upcoming? 1 rows) (unlabelled label c) := by
  have whole := isText
  generalize ahead : c.rest = text at isText
  induction isText with
  | @nil gap blank =>
    rw [unlabelled_of_no_comment label (comment_eq_none ?_)]
    · exact uncommented_of_rows label whole fresh
    · rw [ahead, next_eq_none blank]
      nofun
  | blank noComment others ih =>
    rw [upcoming?_blank 1 noComment]
    exact (ih (ahead ▸ others) ahead).blank noComment
  | comment blank inLine endsLine others _ =>
    have attempt := attempt_of_comment label blank inLine endsLine ahead others
    generalize unlabelled label c = tried at attempt ⊢
    cases attempt with
    | command isCommand leaves =>
      exact .command isCommand (leaves.comment (misleads_eq_false_of_isCommand isCommand))
    | misread misleads colon => exact .misread misleads colon
    | nothing noCommand honest => exact .nothing noCommand honest
  | label _ _ _ _ _ _ _ _ | command _ _ _ _ _ _ | labelled _ _ _ _ _ _ _ _ =>
    rw [unlabelled_of_no_comment label (comment_eq_none_of_item whole rfl)]
    exact uncommented_of_rows label whole fresh

/-! ## Stretches -/

theorem step_of_comment (blank : ∀ x ∈ gap, isSeparator x) (inLine : '\n' ∉ text)
    (endsLine : EndsLine rest) (isText : Rows rows rest)
    (ahead : c.rest = gap ++ '/' :: '/' :: text ++ rest) :
    Step (⟨none, none, .comment⟩ :: rows) (stretch c) := by
  have found := comment_of_ahead blank inLine ahead endsLine
  have slash (rest : List Char) : next (gap ++ '/' :: '/' :: text ++ rest) = some '/' := by
    rw [List.append_assoc, next_append blank]
    exact next_cons (by decide)
  have notBlank : next (gap ++ '/' :: '/' :: text) ≠ none := by
    rw [← List.append_nil (gap ++ _), slash]
    nofun
  have noLabel : label c = none := by
    apply label_eq_none
    rw [ahead, slash]
    rintro x ⟨⟩
    decide
  have isStatement := statement_of_no_label noLabel
  have attempt := attempt_of_comment none blank inLine endsLine ahead isText
  have taken {items : List Item} {c' : Cursor} (found : unlabelled none c = some (items, c')) :
      stretch c = some (items, c') :=
    stretch_of_statement (isStatement.trans found)
      (line_position ahead notBlank endsLine (reads_unlabelled _ _ items c' found).1
        (length_le_of_comment none blank inLine endsLine ahead found))
  generalize result : unlabelled none c = tried at attempt
  cases attempt with
  | command isCommand leaves =>
    rw [taken result]
    exact .advances (leaves.comment (misleads_eq_false_of_isCommand isCommand))
  | misread misleads colon =>
    rw [taken result]
    refine .stuck ?_ (.inr colon)
    rw [legible, misleads]
    rfl
  | nothing _ honest =>
    rw [stretch_of_comment found noLabel (isStatement.trans result)
      (line_position ahead notBlank endsLine (leads_move c _ rest ahead) (Nat.le_refl _))]
    exact .advances ⟨rows, isText, fresh_of_blank endsLine.blank, rfl, legible_comment false honest⟩

/-! ## Labels alone on a line -/

section LabelAlone

variable {name : String} {token : Token} (blank : ∀ x ∈ gap, isSeparator x)
  (spells : SpellsName name token) (spaced : Spaced true [token, [':']] text)
  (endsLine : EndsLine rest) (ahead : c.rest = gap ++ (text ++ (tailText ++ rest)))

include blank spells spaced ahead

theorem label_of_row : label c = some (name, c.move (gap ++ text) (tailText ++ rest)) := by
  rw [← List.append_assoc] at ahead
  exact label_of_ahead spells (spaced.prepend blank) ahead

include endsLine

/-- A statement is taken that reaches beyond the line of its label. -/
theorem stretch_of_unlabelled {items : List Item}
    (found : unlabelled (some name) (c.move (gap ++ text) (tailText ++ rest)) = some (items, c'))
    (shorter : c'.rest.length ≤ rest.length) :
    stretch c = some (items, c') := by
  have isStatement := statement_of_label (label_of_row blank spells spaced ahead)
  have leadsThen := (reads_unlabelled _ _ items c' found).1
  rw [← List.append_assoc text, ← List.append_assoc gap] at ahead
  have leads : c.Leads (c.move (gap ++ text) (tailText ++ rest)) := by
    refine leads_move c _ _ ?_
    rw [ahead]
    simp only [List.append_assoc]
  have notBlank : next (gap ++ (text ++ tailText)) ≠ none := by
    rw [next_append blank]
    exact spaced.next_ne_none spells.isSolid tailText
  exact stretch_of_statement (isStatement.trans found)
    (line_position ahead notBlank endsLine (leads.trans leadsThen) shorter)

/-- If there is no statement, the line is unknown unless it ends behind the label. -/
theorem stretch_of_tail (inLine : '\n' ∉ text ++ tailText) (nonempty : tailText ≠ [])
    (missing : unlabelled (some name) (c.move (gap ++ text) (tailText ++ rest)) = none) :
    ∃ result c', stretch c = some ([.unknown result], c') := by
  have found := label_of_row blank spells spaced ahead
  have notBlank : next (text ++ tailText) ≠ none := spaced.next_ne_none spells.isSolid tailText
  rw [← List.append_assoc text] at ahead
  obtain ⟨result, foundLine⟩ := line_of_inLine blank ahead inLine notBlank endsLine
  refine ⟨result, _, stretch_of_line found ((statement_of_label found).trans missing) foundLine ?_⟩
  have positive := List.length_pos_iff.mpr nonempty
  simp only [Cursor.move, List.length_append]
  omega

/-- If something stands behind the label, the label is kept exactly if a command is found. -/
theorem step_of_attempt {row? : Option Row} (nonempty : tailText ≠ [])
    (inLine : '\n' ∉ text ++ tailText) (kept : keepsLabel rows tail = row?.any Row.isCommand)
    (attempt : Attempt [.label name] rows row?
      (unlabelled (some name) (c.move (gap ++ text) (tailText ++ rest))))
    (shorter : ∀ items c',
      unlabelled (some name) (c.move (gap ++ text) (tailText ++ rest)) = some (items, c') →
        c'.rest.length ≤ rest.length) :
    Step (⟨some name, none, tail⟩ :: rows) (stretch c) := by
  have taken {items : List Item} {c' : Cursor}
      (found : unlabelled (some name) (c.move (gap ++ text) (tailText ++ rest)) =
        some (items, c')) : stretch c = some (items, c') :=
    stretch_of_unlabelled blank spells spaced endsLine ahead found (shorter items c' found)
  generalize result : unlabelled (some name) (c.move _ (tailText ++ rest)) = tried at attempt
  cases attempt with
  | @command command c' isCommand leaves =>
    rw [taken result]
    exact .advances (leaves.label name (legible_of_kept tail (kept.trans isCommand)))
  | misread misleads colon =>
    rw [taken result]
    have lost := kept.trans (isCommand_eq_false_of_misleads misleads)
    exact .stuck (legible_of_lost tail lost) (.inr colon)
  | nothing noCommand _ =>
    obtain ⟨unknown, c', found⟩ :=
      stretch_of_tail blank spells spaced endsLine ahead inLine nonempty result
    rw [found]
    have lost := kept.trans noCommand
    exact .stuck (legible_of_lost tail lost) (.inl ⟨unknown, List.mem_cons_self⟩)

end LabelAlone

variable {name : String} {token : Token}

theorem step_of_label (blank : ∀ x ∈ gap, isSeparator x) (spells : SpellsName name token)
    (spaced : Spaced true [token, [':']] text) (endsLine : EndsLine rest) (isText : Rows rows rest)
    (ahead : c.rest = gap ++ (text ++ rest)) :
    Step (⟨some name, none, .nothing⟩ :: rows) (stretch c) := by
  have aheadThen : c.rest = gap ++ (text ++ ([] ++ rest)) := ahead
  have taken {items : List Item} {c' : Cursor}
      (found : unlabelled (some name) (c.move (gap ++ text) rest) = some (items, c')) :
      stretch c = some (items, c') :=
    stretch_of_unlabelled blank spells spaced endsLine aheadThen found
      (reads_unlabelled _ _ items c' found).1.length_le
  have fresh := fresh_of_label (spaced.prepend blank) c rest
  have attempt := unlabelled_of_rows (c := c.move (gap ++ text) rest) (some name) isText fresh
  generalize result : unlabelled (some name) (c.move _ rest) = tried at attempt
  cases attempt with
  | @command command c' isCommand leaves =>
    rw [taken result]
    exact .advances (leaves.label name (legible_of_kept .nothing
      (keepsLabel_nothing (misleads_eq_false_of_isCommand isCommand))))
  | misread misleads colon =>
    rw [taken result]
    refine .stuck (legible_of_lost .nothing ?_) (.inr colon)
    rw [keepsLabel, misleads, Bool.not_true]
  | nothing _ honest =>
    have found := label_of_row blank spells spaced aheadThen
    have notBlank : next (gap ++ text) ≠ none := by
      have isNext := spaced.next_ne_none spells.isSolid []
      rw [List.append_nil] at isNext
      rwa [next_append blank]
    rw [← List.append_assoc] at ahead
    rw [stretch_of_label found ((statement_of_label found).trans result)
      (line_position ahead notBlank endsLine (leads_move c _ rest ahead) (Nat.le_refl _))]
    exact .advances ⟨rows, isText, fresh, rfl,
      legible_of_kept .nothing (keepsLabel_nothing honest)⟩

theorem step_of_label_blanks (blank : ∀ x ∈ gap, isSeparator x) (spells : SpellsName name token)
    (spaced : Spaced true [token, [':']] text) (tails : Tail.blanks.Spells tailText)
    (inLine : '\n' ∉ text ++ tailText) (endsLine : EndsLine rest) (isText : Rows rows rest)
    (ahead : c.rest = gap ++ (text ++ (tailText ++ rest))) :
    Step (⟨some name, none, .blanks⟩ :: rows) (stretch c) := by
  obtain _ | ⟨notNothing, blankTail⟩ | _ := tails
  have fresh := fresh_of_label (spaced.prepend blank) c (tailText ++ rest)
  have attempt := unlabelled_of_rows (c := c.move (gap ++ text) (tailText ++ rest)) (some name)
    (isText.prepend blankTail) fresh
  refine step_of_attempt blank spells spaced endsLine ahead notNothing inLine rfl attempt ?_
  intro items c' found
  exact length_le_of_stops blankTail rfl (reads_unlabelled _ _ items c' found).1
    (unlabelled_stops found)

theorem step_of_label_comment (blank : ∀ x ∈ gap, isSeparator x) (spells : SpellsName name token)
    (spaced : Spaced true [token, [':']] text) (tails : Tail.comment.Spells tailText)
    (inLine : '\n' ∉ text ++ tailText) (endsLine : EndsLine rest) (isText : Rows rows rest)
    (ahead : c.rest = gap ++ (text ++ (tailText ++ rest))) :
    Step (⟨some name, none, .comment⟩ :: rows) (stretch c) := by
  obtain _ | _ | @⟨gap', remark, blankTail, remarkInLine⟩ := tails
  have attempt := attempt_of_comment
    (c := c.move (gap ++ text) (gap' ++ '/' :: '/' :: remark ++ rest)) (some name) blankTail
    remarkInLine endsLine rfl isText
  refine step_of_attempt blank spells spaced endsLine ahead
    (List.append_ne_nil_of_right_ne_nil _ (List.cons_ne_nil _ _)) inLine rfl attempt ?_
  exact fun items c' => length_le_of_comment (some name) blankTail remarkInLine endsLine rfl

/-! ## Commands -/

theorem step_of_command {command : Command} {tokens : List Token} (spells : command.Spelled tokens)
    (spaced : Spaced true tokens text) (tails : tail.Spells tailText) (endsLine : EndsLine rest)
    (isText : Rows rows rest) (ahead : c.rest = text ++ (tailText ++ rest)) (fresh : c.Fresh) :
    Step (⟨none, some command, tail⟩ :: rows) (stretch c) := by
  have noColon := (isText.cons (.empty tails) endsLine).next_ne (x := ':') (by decide) (by decide)
  have noLabel := label_eq_none_of_command spells spaced ahead (tails.remark.ends endsLine) noColon
  obtain ⟨c', found, shorter, left, freshThen⟩ :=
    uncommented_of_row none spells spaced tails endsLine isText ahead fresh
  obtain ⟨token, others, rfl, solid⟩ := spells.head
  have noComment : comment c = none := by
    apply comment_eq_none_of_solid solid
    rw [ahead, spaced.next_eq solid]
  have isStatement :=
    (statement_of_no_label noLabel).trans (unlabelled_of_no_comment none noComment)
  have leads := (reads_uncommented _ _ _ c' found).1
  rw [← List.append_assoc] at ahead
  rw [stretch_of_statement (isStatement.trans found)
    (line_position ahead (spaced.next_ne_none solid tailText) endsLine leads shorter)]
  exact .advances (leaves_of_command none command tail left freshThen)

theorem step_of_labelled {command : Command} {tokens : List Token} {labelText : List Char}
    (spellsName : SpellsName name token) (labelSpaced : Spaced true [token, [':']] labelText)
    (spells : command.Spelled tokens) (spaced : Spaced true tokens text)
    (tails : tail.Spells tailText) (endsLine : EndsLine rest) (isText : Rows rows rest)
    (ahead : c.rest = labelText ++ (text ++ (tailText ++ rest))) :
    Step (⟨some name, some command, tail⟩ :: rows) (stretch c) := by
  have foundLabel := label_of_ahead spellsName labelSpaced ahead
  have fresh := fresh_of_label labelSpaced c (text ++ (tailText ++ rest))
  obtain ⟨c', found, shorter, left, freshThen⟩ :=
    uncommented_of_row (c := c.move labelText (text ++ (tailText ++ rest))) (some name) spells
      spaced tails endsLine isText rfl fresh
  obtain ⟨token, others, rfl, solid⟩ := spells.head
  have noComment : comment (c.move labelText (text ++ (tailText ++ rest))) = none :=
    comment_eq_none_of_solid solid (spaced.next_eq solid _)
  have isStatement :=
    (statement_of_label foundLabel).trans (unlabelled_of_no_comment (some name) noComment)
  have leads := (leads_move c labelText _ ahead).trans (reads_uncommented _ _ _ c' found).1
  rw [← List.append_assoc text, ← List.append_assoc] at ahead
  rw [stretch_of_statement (isStatement.trans found)
    (line_position ahead (labelSpaced.next_ne_none spellsName.isSolid _) endsLine leads shorter)]
  exact .advances (leaves_of_command (some name) command tail left freshThen)

/-- A stretch takes the items of one or more rows away, if they are legible. -/
theorem stretch_of_rows (isText : Rows rows c.rest) (fresh : c.Fresh) : Step rows (stretch c) := by
  generalize ahead : c.rest = text at isText
  induction isText with
  | nil blank =>
    rw [stretch_eq_none (ahead ▸ blank)]
    exact .finished rfl rfl
  | blank noComment _ ih => exact (ih ahead).blank noComment
  | comment blank inLine endsLine others _ =>
    exact step_of_comment blank inLine endsLine others ahead
  | @label _ _ _ _ _ _ tail _ blank spells spaced tails inLine endsLine others _ =>
    cases tail with
    | nothing =>
      cases tails
      exact step_of_label blank spells spaced endsLine others ahead
    | blanks =>
      exact step_of_label_blanks blank spells spaced tails (inLine nofun) endsLine others ahead
    | comment =>
      exact step_of_label_comment blank spells spaced tails (inLine nofun) endsLine others ahead
  | command spells spaced tails endsLine others _ =>
    exact step_of_command spells spaced tails endsLine others ahead fresh
  | labelled spellsName labelSpaced spells spaced tails endsLine others _ =>
    exact step_of_labelled spellsName labelSpaced spells spaced tails endsLine others ahead

/-- Where a colon comes next, the rest of the line is unknown. -/
theorem stretch_of_colon (colon : c.rest.head? = some ':') :
    ∃ text c', stretch c = some ([.unknown text], c') := by
  obtain ⟨more, ahead⟩ := List.head?_eq_some_iff.mp colon
  exact ⟨_, _, stretch_of_unknown rfl (by decide) (by decide) ahead⟩

/-- Legible rows are read as the items on them, and of others some part is unknown. -/
theorem stretches_of_rows (limit : Nat) (isText : Rows rows c.rest) (fresh : c.Fresh)
    (enough : c.rest.length ≤ limit) :
    (legible false rows → stretches limit c = rows.flatMap Row.items) ∧
      (legible false rows = false → ∃ text, .unknown text ∈ stretches limit c) := by
  -- Each stretch shortens the text, so its length is enough as a limit.
  induction limit generalizing c rows with
  | zero =>
    have blank : ∀ x ∈ c.rest, isSeparator x := by
      rw [List.eq_nil_of_length_eq_zero (Nat.le_zero.mp enough)]
      exact List.forall_mem_nil _
    have step := stretch_of_rows isText fresh
    rw [stretch_eq_none blank] at step
    cases step with
    | finished nothing isLegible =>
      refine ⟨fun _ => nothing.symm, fun notLegible => ?_⟩
      rw [isLegible] at notLegible
      cases notLegible
  | succ limit ih =>
    have step := stretch_of_rows isText fresh
    rw [stretches]
    cases found : stretch c with
    | none =>
      rw [found] at step
      cases step with
      | finished nothing isLegible =>
        refine ⟨fun _ => nothing.symm, fun notLegible => ?_⟩
        rw [isLegible] at notLegible
        cases notLegible
    | some taken =>
      obtain ⟨items, c'⟩ := taken
      have shorter := (stretch_shortens c c' items found).2
      rw [found] at step
      cases step with
      | advances leaves =>
        obtain ⟨others, left, freshThen, same, sameLegible⟩ := leaves
        obtain ⟨asMeant, unknown⟩ := ih left freshThen (by omega)
        rw [same, sameLegible]
        refine ⟨fun isLegible => congrArg (items ++ ·) (asMeant isLegible), fun notLegible => ?_⟩
        obtain ⟨text, mem⟩ := unknown notLegible
        exact ⟨text, List.mem_append_right items mem⟩
      | stuck notLegible unknown =>
        refine ⟨fun isLegible => absurd (notLegible.symm.trans isLegible) Bool.false_ne_true,
          fun _ => ?_⟩
        obtain ⟨text, mem⟩ | colon := unknown
        · exact ⟨text, List.mem_append_left _ mem⟩
        · -- The colon is left for the next stretch, so there is one.
          obtain ⟨text, c'', foundThen⟩ := stretch_of_colon colon
          cases limit with
          | zero =>
            have longer := (stretch_shortens c' c'' _ foundThen).2
            omega
          | succ limit =>
            refine ⟨text, List.mem_append_right items ?_⟩
            rw [stretches, foundThen]
            exact List.mem_append_left _ List.mem_cons_self

end Scan

/-! ## Texts -/

/-- The text of lines with line ends between them. -/
def textOf (lines : List (List Char)) : String := String.ofList (['\n'].intercalate lines)

variable {lines : List (List Char)}

theorem stretches_of_writes (writes : List.Forall₂ Row.Writes rows lines) :
    (legible false rows → itemsOf (textOf lines) = rows.flatMap Row.items) ∧
      (legible false rows = false → ∃ text, .unknown text ∈ itemsOf (textOf lines)) := by
  rw [itemsOf, textOf, String.toList_ofList, expand_eq]
  exact Scan.stretches_of_rows (c := .start _) _ ((Rows.intercalate writes).expandFrom 0)
    (fun _ _ _ => rfl) (Nat.le_refl _)

theorem itemsOf_of_rows (writes : List.Forall₂ Row.Writes rows lines)
    (isLegible : legible false rows) : itemsOf (textOf lines) = rows.flatMap Row.items :=
  (stretches_of_writes writes).1 isLegible

/-- Lines hold plain rows, so they are read as the items on them. -/
theorem itemsOf_of_lines {parts : List (List Item)} (areLines : List.Forall₂ Line parts lines) :
    itemsOf (textOf lines) = parts.flatten := by
  obtain ⟨rows, writes, rfl, plain⟩ := exists_rows_of_lines areLines
  rw [itemsOf_of_rows writes (legible_of_plain plain false), List.flatMap_def]

theorem fails_of_rows (writes : List.Forall₂ Row.Writes rows lines)
    (notLegible : legible false rows = false) : Fails (textOf lines) := by
  obtain ⟨text, mem⟩ := (stretches_of_writes writes).2 notLegible
  exact fails_of_unknown mem

/-- Rows of a text that is assembled are legible. -/
theorem legible_of_assembleText (writes : List.Forall₂ Row.Writes rows lines)
    {program : List UInt8} (assembled : assembleText (textOf lines) = .ok program) :
    legible false rows := by
  rw [← Bool.not_eq_false]
  intro notLegible
  obtain ⟨e, failed, _⟩ := fails_of_rows writes notLegible
  rw [assembled] at failed
  cases failed

end ChipEight.Assembly
