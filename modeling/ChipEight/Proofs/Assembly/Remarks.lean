import ChipEight.Proofs.Assembly.RowReading

/-!
# Comments and blanks at the ends of lines

What is added at the end of a line, blanks or a comment, changes nothing if the program is legible
then, and if it is not, the program fails. Behind a command nothing can go wrong. A label alone on
its line can be lost, and a comment on an empty line can bring the next label to be taken for a
command; but what is added never makes a program legible.
-/

namespace ChipEight.Assembly

/-- What stands at the end of a line when more is put there. -/
def Tail.add : Tail → Tail → Tail
  | .nothing, added => added
  | .blanks, .comment => .comment
  | .blanks, _ => .blanks
  | .comment, _ => .comment

def Row.add (row : Row) (added : Tail) : Row := { row with tail := row.tail.add added }

theorem Tail.Spells.append {tail added : Tail} {text addition : List Char}
    (spells : tail.Spells text) (adds : added.Spells addition) (inLine : '\n' ∉ addition) :
    (tail.add added).Spells (text ++ addition) := by
  cases spells with
  | nothing => exact adds
  | blanks some blank =>
    cases adds with
    | nothing =>
      rw [List.append_nil]
      exact .blanks some blank
    | blanks _ blank' =>
      exact .blanks (List.append_ne_nil_of_left_ne_nil some _)
        (List.forall_mem_append.mpr ⟨blank, blank'⟩)
    | comment blank' remarkInLine =>
      rw [← List.append_assoc]
      exact .comment (List.forall_mem_append.mpr ⟨blank, blank'⟩) remarkInLine
  | comment blank remarkInLine =>
    -- A comment takes whatever is added to its line.
    rw [List.append_assoc]
    exact .comment blank (List.mem_append.not.mpr (not_or.mpr ⟨remarkInLine, inLine⟩))

theorem Row.Writes.append {row : Row} {added : Tail} {line addition : List Char}
    (writes : row.Writes line) (adds : added.Spells addition) (inLine : '\n' ∉ line ++ addition) :
    (row.add added).Writes (line ++ addition) := by
  have additionInLine : '\n' ∉ addition := fun mem => inLine (List.mem_append_right line mem)
  cases writes with
  | empty spells => exact .empty (spells.append adds additionInLine)
  | label spells spaced tails _ =>
    rw [List.append_assoc] at inLine ⊢
    exact .label spells spaced (tails.append adds additionInLine) fun _ => inLine
  | command spells spaced tails =>
    rw [List.append_assoc]
    exact .command spells spaced (tails.append adds additionInLine)
  | labelled spellsName labelSpaced spells spaced tails =>
    rw [List.append_assoc, List.append_assoc]
    exact .labelled spellsName labelSpaced spells spaced (tails.append adds additionInLine)

/-! ## What is added never makes a program legible -/

/-- Whether a row is another one with something added at its end. Behind a command it does not
    matter what stands there. -/
inductive Row.Extends : Row → Row → Prop
  | uncommanded (label : Option String) (tail added : Tail) :
    Extends ⟨label, none, tail⟩ ⟨label, none, tail.add added⟩
  | command (label : Option String) (command : Command) (tail tail' : Tail) :
    Extends ⟨label, some command, tail⟩ ⟨label, some command, tail'⟩

theorem Tail.add_nothing (tail : Tail) : tail.add .nothing = tail := by
  cases tail <;> rfl

theorem Tail.ne_comment_of_add {tail added : Tail} (noComment : tail.add added ≠ .comment) :
    tail ≠ .comment := by
  rintro rfl
  exact noComment rfl

theorem Row.extends_add (row : Row) (added : Tail) : row.Extends (row.add added) := by
  obtain ⟨label, command | command, tail⟩ := row
  · exact .uncommanded label tail added
  · exact .command label command tail _

theorem Row.extends_refl (row : Row) : row.Extends row := by
  have extended := row.extends_add .nothing
  rwa [Row.add, Tail.add_nothing] at extended

theorem Row.add_extends {row : Row} (isSome : row.command.isSome) (added : Tail) :
    (row.add added).Extends row := by
  obtain ⟨label, command | command, tail⟩ := row
  · cases isSome
  · exact .command label command _ tail

variable {rows rows' : List Row}

/-- The first row with an item on it, whatever comments are in front of it. -/
def firstItem? (rows : List Row) : Option Row := rows.find? fun row => !row.isEmpty

/-- In legible rows no comment is in front of a label that misleads. -/
theorem upcoming?_misleads (isLegible : legible false rows) (comments : Nat) :
    (upcoming? comments rows).any Row.misleads = (firstItem? rows).any Row.misleads := by
  induction rows generalizing comments with
  | nil => rfl
  | cons row rows ih =>
    obtain ⟨label | name, command | command, tail⟩ := row
    case some.none | none.some | some.some => rfl
    cases tail with
    | nothing | blanks => exact ih isLegible comments
    | comment =>
      rw [legible, Bool.false_or, Bool.and_eq_true, Bool.not_eq_true'] at isLegible
      obtain ⟨honest, isLegible⟩ := isLegible
      have first : (firstItem? rows).any Row.misleads = false := ih isLegible 0 ▸ honest
      cases comments with
      | zero => exact first.symm
      | succ comments => exact ih isLegible comments

theorem firstItem?_misleads (extend : List.Forall₂ Row.Extends rows rows') :
    (firstItem? rows').any Row.misleads = (firstItem? rows).any Row.misleads := by
  induction extend with
  | nil => rfl
  | cons isExtended _ ih =>
    cases isExtended with
    | uncommanded label tail added =>
      cases label with
      | none => exact ih
      | some name => rfl
    | command label command tail tail' => cases label <;> rfl

/-- What is added can only keep a command from being reached. -/
theorem upcoming?_isCommand (extend : List.Forall₂ Row.Extends rows rows') {comments more : Nat}
    (le : comments ≤ more) (isCommand : (upcoming? comments rows').any Row.isCommand) :
    (upcoming? more rows).any Row.isCommand := by
  induction extend generalizing comments more with
  | nil => cases isCommand
  | cons isExtended _ ih =>
    cases isExtended with
    | command label command tail tail' => cases label <;> exact isCommand
    | uncommanded label tail added =>
      cases label with
      | some name => cases isCommand
      | none =>
        by_cases isComment : tail.add added = .comment
        · rw [isComment] at isCommand
          cases comments with
          | zero => cases isCommand
          | succ comments =>
            by_cases wasComment : tail = .comment
            · subst wasComment
              cases more with
              | zero => cases le
              | succ more => exact ih (Nat.le_of_succ_le_succ le) isCommand
            · rw [upcoming?_blank more wasComment]
              exact ih (Nat.le_of_succ_le le) isCommand
        · rw [upcoming?_blank comments isComment] at isCommand
          rw [upcoming?_blank more (Tail.ne_comment_of_add isComment)]
          exact ih le isCommand

theorem keepsLabel_of_extends (extend : List.Forall₂ Row.Extends rows rows') {tail added : Tail}
    (sameNext : (upcoming? 1 rows).any Row.misleads = (upcoming? 1 rows').any Row.misleads)
    (kept : keepsLabel rows' (tail.add added)) : keepsLabel rows tail := by
  -- A command that comes next for a label with more behind it does so for the label before, too.
  have command {comments more : Nat} (le : comments ≤ more)
      (isCommand : (upcoming? comments rows').any Row.isCommand) :
      (upcoming? more rows).any Row.isCommand := upcoming?_isCommand extend le isCommand
  have honest {comments : Nat} (le : comments ≤ 1)
      (isCommand : (upcoming? comments rows').any Row.isCommand) : keepsLabel rows .nothing :=
    keepsLabel_nothing (misleads_eq_false_of_isCommand (command le isCommand))
  cases tail with
  | nothing =>
    cases added with
    | nothing =>
      rw [keepsLabel, sameNext]
      exact kept
    | blanks => exact honest (Nat.le_refl 1) kept
    | comment => exact honest (Nat.zero_le 1) kept
  | blanks =>
    cases added with
    | nothing | blanks => exact command (Nat.le_refl 1) kept
    | comment => exact command (Nat.zero_le 1) kept
  | comment => exact command (Nat.le_refl 0) kept

/-- Adding at the ends of lines never makes rows legible. -/
theorem legible_of_extends (extend : List.Forall₂ Row.Extends rows rows') (behind : Bool)
    (isLegible : legible behind rows') : legible behind rows := by
  induction extend generalizing behind with
  | nil => rfl
  | @cons row row' rows rows' isExtended extend ih =>
    have sameNext (others : legible false rows') (comments comments' : Nat) :
        (upcoming? comments rows).any Row.misleads = (upcoming? comments' rows').any Row.misleads :=
      (upcoming?_misleads (ih false others) comments).trans
        ((firstItem?_misleads extend).symm.trans (upcoming?_misleads others comments').symm)
    cases isExtended with
    | command label command tail tail' => exact ih true isLegible
    | uncommanded label tail added =>
      cases label with
      | none =>
        by_cases isComment : tail.add added = .comment
        · rw [isComment, legible, Bool.and_eq_true] at isLegible
          obtain ⟨honest, others⟩ := isLegible
          by_cases wasComment : tail = .comment
          · rw [wasComment, legible, Bool.and_eq_true]
            refine ⟨?_, ih behind others⟩
            cases behind with
            | true => rfl
            | false => rwa [sameNext others 0 0]
          · rw [legible_blank behind wasComment]
            exact ih behind others
        · rw [legible_blank behind isComment] at isLegible
          rw [legible_blank behind (Tail.ne_comment_of_add isComment)]
          exact ih behind isLegible
      | some name =>
        rw [legible_label, Bool.and_eq_true] at isLegible ⊢
        obtain ⟨kept, others⟩ := isLegible
        exact ⟨keepsLabel_of_extends extend (sameNext others 1 1) kept, ih false others⟩

/-! ## Outcomes -/

theorem flatMap_items_of_extends (extend : List.Forall₂ Row.Extends rows rows') :
    rows'.flatMap Row.items = rows.flatMap Row.items := by
  induction extend with
  | nil => rfl
  | cons isExtended _ ih =>
    rw [List.flatMap_cons, List.flatMap_cons, ih]
    cases isExtended <;> rfl

theorem assembleText_of_extends {lines lines' : List (List Char)}
    (writes : List.Forall₂ Row.Writes rows lines) (writes' : List.Forall₂ Row.Writes rows' lines')
    (extend : List.Forall₂ Row.Extends rows rows') (isLegible : legible false rows') :
    assembleText (textOf lines') = assembleText (textOf lines) := by
  have before := legible_of_extends extend false isLegible
  apply assembleText_congr
  rw [itemsOf_of_rows writes' isLegible, itemsOf_of_rows writes before,
    flatMap_items_of_extends extend]

/-- A program with something added at the end of a line comes to what it comes to without, if it is
    legible then; if it is not, it fails. Behind a command, whatever is added does not matter: only
    what fails with it has failed without it. -/
theorem assembleText_add {before after : List Row} {row : Row} {added : Tail}
    {linesBefore linesAfter : List (List Char)} {line addition : List Char}
    (writesBefore : List.Forall₂ Row.Writes before linesBefore) (writes : row.Writes line)
    (writesAfter : List.Forall₂ Row.Writes after linesAfter) (adds : added.Spells addition)
    (inLine : '\n' ∉ line ++ addition) :
    (legible false (before ++ row.add added :: after) →
      assembleText (textOf (linesBefore ++ (line ++ addition) :: linesAfter)) =
        assembleText (textOf (linesBefore ++ line :: linesAfter))) ∧
    (legible false (before ++ row.add added :: after) = false →
      Fails (textOf (linesBefore ++ (line ++ addition) :: linesAfter)) ∧
        (row.command.isSome → Fails (textOf (linesBefore ++ line :: linesAfter)))) := by
  have same (rows : List Row) : List.Forall₂ Row.Extends rows rows :=
    List.forall₂_same.mpr fun row _ => row.extends_refl
  have whole : List.Forall₂ Row.Writes (before ++ row :: after)
      (linesBefore ++ line :: linesAfter) := List.rel_append writesBefore (.cons writes writesAfter)
  have changed : List.Forall₂ Row.Writes (before ++ row.add added :: after)
      (linesBefore ++ (line ++ addition) :: linesAfter) :=
    List.rel_append writesBefore (.cons (writes.append adds inLine) writesAfter)
  refine ⟨fun isLegible => ?_,
    fun notLegible => ⟨fails_of_rows changed notLegible, fun isSome => ?_⟩⟩
  · have extend := List.rel_append (same before) (.cons (row.extends_add added) (same after))
    exact assembleText_of_extends whole changed extend isLegible
  · -- If the program had been legible, it would be so still.
    refine fails_of_rows whole (Bool.eq_false_iff.mpr fun wasLegible => ?_)
    have extend := List.rel_append (same before) (.cons (Row.add_extends isSome added) (same after))
    rw [legible_of_extends extend false wasLegible] at notLegible
    cases notLegible

/-- A comment behind a label at the end of a program makes it fail. -/
theorem assembleText_add_label : assembleText "a:" = .ok [] ∧ Fails "a: // c" := by
  have writes : Row.Writes ⟨some "a", none, .nothing⟩ "a:".toList :=
    .label (.intro 'a' [] rfl (List.forall_mem_nil _)) (spaced_label ['a']) .nothing nofun
  have adds : Tail.comment.Spells ([' '] ++ '/' :: '/' :: " c".toList) :=
    .comment blank_space (by decide)
  obtain ⟨_, fails⟩ := assembleText_add .nil writes .nil adds (by decide)
  exact ⟨rfl, (fails rfl).1⟩

end ChipEight.Assembly
