import ChipEight.Proofs.Assembly.Lines

/-!
# Rows of a program

What each line of a program holds: a label, a command, both or neither, and then blanks, a comment
or nothing. Not every such program is read as what its lines hold. A label alone on its line is
given up together with the line if blanks or a comment follow it and no command comes next. And
behind a label alone or a comment a command is tried for, so a label called like a command without
operands is taken for the command there. `legible` tells the programs to which neither happens.
-/

namespace ChipEight.Assembly

/-! ## Lines -/

/-- What stands on a line behind its label and its command. -/
inductive Tail
  | nothing
  | blanks
  | comment
  deriving DecidableEq, Repr

/-- A tail as it is written. -/
inductive Tail.Spells : Tail → List Char → Prop
  | nothing : Spells .nothing []
  | blanks {gap : List Char} (some : gap ≠ []) (blank : ∀ x ∈ gap, isSeparator x) :
    Spells .blanks gap
  | comment {gap text : List Char} (blank : ∀ x ∈ gap, isSeparator x) (inLine : '\n' ∉ text) :
    Spells .comment (gap ++ '/' :: '/' :: text)

/-- What a line holds. -/
structure Row where
  label : Option String
  command : Option Command
  tail : Tail
  deriving DecidableEq, Repr

namespace Row

def items (row : Row) : List Item :=
  (row.label.map Item.label).toList ++ (row.command.map Item.command).toList

/-- Whether a row holds no item. -/
def isEmpty (row : Row) : Bool := row.label.isNone && row.command.isNone

/-- Whether a row holds a command that no label stands in front of. -/
def isCommand (row : Row) : Bool := row.label.isNone && row.command.isSome

/-- Whether the label of a row is a command by itself. -/
def misleads (row : Row) : Bool := row.label.any fun name => !decide (NotCommand name.toList)

/-- A row as it is written on a line. Only where something stands behind a label does it matter that
    the line is one. -/
inductive Writes : Row → List Char → Prop
  | empty {tail : Tail} {text : List Char} (spells : tail.Spells text) :
    Writes ⟨none, none, tail⟩ text
  | label {name : String} {token : Token} {text tailText : List Char} {tail : Tail}
    (spells : SpellsName name token) (spaced : Spaced true [token, [':']] text)
    (tails : tail.Spells tailText) (inLine : tail ≠ .nothing → '\n' ∉ text ++ tailText) :
    Writes ⟨some name, none, tail⟩ (text ++ tailText)
  | command {command : Command} {tokens : List Token} {text tailText : List Char} {tail : Tail}
    (spells : command.Spelled tokens) (spaced : Spaced true tokens text)
    (tails : tail.Spells tailText) :
    Writes ⟨none, some command, tail⟩ (text ++ tailText)
  | labelled {name : String} {token : Token} {command : Command} {tokens : List Token}
    {labelText text tailText : List Char} {tail : Tail} (spellsName : SpellsName name token)
    (labelSpaced : Spaced true [token, [':']] labelText) (spells : command.Spelled tokens)
    (spaced : Spaced true tokens text) (tails : tail.Spells tailText) :
    Writes ⟨some name, some command, tail⟩ (labelText ++ (text ++ tailText))

end Row

/-! ## What is read as it is meant -/

/-- The first row with an item on it, if there are no more than so many comments in front of it. -/
def upcoming? : (comments : Nat) → List Row → Option Row
  | _, [] => none
  | comments, row :: rows =>
    if row.isEmpty then
      match row.tail, comments with
      | .comment, 0 => none
      | .comment, comments + 1 => upcoming? comments rows
      | _, comments => upcoming? comments rows
    else some row

/-- Whether a label alone on its line is kept, with the tail behind it and the rows after it: what
    goes on behind the label has to be a command then. -/
def keepsLabel (rows : List Row) : Tail → Bool
  | .nothing => !(upcoming? 1 rows).any Row.misleads
  | .blanks => (upcoming? 1 rows).any Row.isCommand
  | .comment => (upcoming? 0 rows).any Row.isCommand

/-- Whether rows are read as what they hold; `behind` tells whether a command was read just before,
    to which all comments up to the next item belong. -/
def legible : (behind : Bool) → List Row → Bool
  | _, [] => true
  | behind, row :: rows =>
    match row.command, row.label, row.tail with
    | some _, _, _ => legible true rows
    | none, some _, tail => keepsLabel rows tail && legible false rows
    | none, none, .comment =>
      (behind || !(upcoming? 0 rows).any Row.misleads) && legible behind rows
    | none, none, _ => legible behind rows

theorem legible_label (behind : Bool) (name : String) (tail : Tail) (rows : List Row) :
    legible behind (⟨some name, none, tail⟩ :: rows) =
      (keepsLabel rows tail && legible false rows) := rfl

theorem legible_of_kept {behind : Bool} {name : String} (tail : Tail) {rows : List Row}
    (kept : keepsLabel rows tail) :
    legible behind (⟨some name, none, tail⟩ :: rows) = legible false rows := by
  rw [legible_label, kept, Bool.true_and]

theorem legible_of_lost {behind : Bool} {name : String} (tail : Tail) {rows : List Row}
    (lost : keepsLabel rows tail = false) :
    legible behind (⟨some name, none, tail⟩ :: rows) = false := by
  rw [legible_label, lost, Bool.false_and]

theorem keepsLabel_nothing {rows : List Row}
    (honest : (upcoming? 1 rows).any Row.misleads = false) : keepsLabel rows .nothing := by
  rw [keepsLabel, honest, Bool.not_false]

theorem legible_blank {tail : Tail} {rows : List Row} (behind : Bool)
    (noComment : tail ≠ .comment) :
    legible behind (⟨none, none, tail⟩ :: rows) = legible behind rows := by
  cases tail with
  | comment => exact absurd rfl noComment
  | _ => rfl

theorem upcoming?_blank {tail : Tail} {rows : List Row} (comments : Nat)
    (noComment : tail ≠ .comment) :
    upcoming? comments (⟨none, none, tail⟩ :: rows) = upcoming? comments rows := by
  cases tail with
  | comment => exact absurd rfl noComment
  | _ => rfl

theorem legible_comment {rows : List Row} (behind : Bool)
    (honest : (upcoming? 0 rows).any Row.misleads = false) :
    legible behind (⟨none, none, .comment⟩ :: rows) = legible behind rows := by
  rw [legible, honest, Bool.not_false, Bool.or_true, Bool.true_and]

/-- Behind a command, rows without items are passed. -/
theorem legible_true (rows : List Row) :
    legible true rows = legible false (rows.dropWhile Row.isEmpty) := by
  induction rows with
  | nil => rfl
  | cons row rows ih =>
    obtain ⟨label, command, tail⟩ := row
    cases command with
    | some command => cases label <;> rfl
    | none =>
      cases label with
      | some name => cases tail <;> rfl
      | none =>
        rw [List.dropWhile_cons_of_pos rfl, ← ih]
        cases tail <;> rfl

theorem flatMap_dropWhile (rows : List Row) :
    (rows.dropWhile Row.isEmpty).flatMap Row.items = rows.flatMap Row.items := by
  induction rows with
  | nil => rfl
  | cons row rows ih =>
    obtain ⟨label, command, tail⟩ := row
    cases label with
    | some name => rfl
    | none =>
      cases command with
      | some command => rfl
      | none => exact ih

/-! ## Texts of rows -/

/-- A text of rows. Blank lines belong to what follows them. -/
inductive Rows : List Row → List Char → Prop
  | nil {gap : List Char} (blank : ∀ x ∈ gap, isSeparator x) : Rows [] gap
  | blank {tail : Tail} {rows : List Row} {text : List Char} (noComment : tail ≠ .comment)
    (others : Rows rows text) : Rows (⟨none, none, tail⟩ :: rows) text
  | comment {gap text rest : List Char} {rows : List Row} (blank : ∀ x ∈ gap, isSeparator x)
    (inLine : '\n' ∉ text) (endsLine : EndsLine rest) (others : Rows rows rest) :
    Rows (⟨none, none, .comment⟩ :: rows) (gap ++ '/' :: '/' :: text ++ rest)
  | label {name : String} {token : Token} {gap text tailText rest : List Char} {tail : Tail}
    {rows : List Row} (blank : ∀ x ∈ gap, isSeparator x) (spells : SpellsName name token)
    (spaced : Spaced true [token, [':']] text) (tails : tail.Spells tailText)
    (inLine : tail ≠ .nothing → '\n' ∉ text ++ tailText) (endsLine : EndsLine rest)
    (others : Rows rows rest) :
    Rows (⟨some name, none, tail⟩ :: rows) (gap ++ (text ++ (tailText ++ rest)))
  | command {command : Command} {tokens : List Token} {text tailText rest : List Char} {tail : Tail}
    {rows : List Row} (spells : command.Spelled tokens) (spaced : Spaced true tokens text)
    (tails : tail.Spells tailText) (endsLine : EndsLine rest) (others : Rows rows rest) :
    Rows (⟨none, some command, tail⟩ :: rows) (text ++ (tailText ++ rest))
  | labelled {name : String} {token : Token} {command : Command} {tokens : List Token}
    {labelText text tailText rest : List Char} {tail : Tail} {rows : List Row}
    (spellsName : SpellsName name token) (labelSpaced : Spaced true [token, [':']] labelText)
    (spells : command.Spelled tokens) (spaced : Spaced true tokens text)
    (tails : tail.Spells tailText) (endsLine : EndsLine rest) (others : Rows rows rest) :
    Rows (⟨some name, some command, tail⟩ :: rows) (labelText ++ (text ++ (tailText ++ rest)))

theorem Tail.Spells.remark {tail : Tail} {text : List Char} (spells : tail.Spells text) :
    Remark text := by
  cases spells with
  | nothing => exact .blank (List.forall_mem_nil _)
  | blanks _ blank => exact .blank blank
  | comment blank inLine => exact .comment blank inLine

namespace Rows

variable {rows : List Row} {gap text rest : List Char}

theorem prepend (isText : Rows rows text) (blank : ∀ x ∈ gap, isSeparator x) :
    Rows rows (gap ++ text) := by
  induction isText with
  | nil blank' => exact .nil (List.forall_mem_append.mpr ⟨blank, blank'⟩)
  | blank noComment _ ih => exact .blank noComment ih
  | comment blank' inLine endsLine others _ =>
    rw [← List.append_assoc, ← List.append_assoc]
    exact .comment (List.forall_mem_append.mpr ⟨blank, blank'⟩) inLine endsLine others
  | label blank' spells spaced tails inLine endsLine others _ =>
    rw [← List.append_assoc]
    exact .label (List.forall_mem_append.mpr ⟨blank, blank'⟩) spells spaced tails inLine endsLine
      others
  | command spells spaced tails endsLine others _ =>
    rw [← List.append_assoc]
    exact .command spells (spaced.prepend_command spells blank) tails endsLine others
  | labelled spellsName labelSpaced spells spaced tails endsLine others _ =>
    rw [← List.append_assoc]
    exact .labelled spellsName (labelSpaced.prepend blank) spells spaced tails endsLine others

theorem cons {row : Row} {line : List Char} (writes : row.Writes line) (endsLine : EndsLine rest)
    (isText : Rows rows rest) : Rows (row :: rows) (line ++ rest) := by
  cases writes with
  | empty spells =>
    cases spells with
    | nothing => exact .blank nofun isText
    | blanks _ blank => exact .blank nofun (isText.prepend blank)
    | comment blank inLine => exact .comment blank inLine endsLine isText
  | label spells spaced tails inLine =>
    rw [List.append_assoc]
    exact .label (List.forall_mem_nil _) spells spaced tails inLine endsLine isText
  | command spells spaced tails =>
    rw [List.append_assoc]
    exact .command spells spaced tails endsLine isText
  | labelled spellsName labelSpaced spells spaced tails =>
    rw [List.append_assoc, List.append_assoc]
    exact .labelled spellsName labelSpaced spells spaced tails endsLine isText

/-- Lines with line ends between them are a text of their rows. -/
theorem intercalate {lines : List (List Char)} (writes : List.Forall₂ Row.Writes rows lines) :
    Rows rows (['\n'].intercalate lines) := by
  induction writes with
  | nil => exact .nil (List.forall_mem_nil _)
  | @cons row line rows lines isLine areLines ih =>
    cases areLines with
    | nil =>
      -- The last line ends the text.
      rw [List.intercalate_singleton, ← List.append_nil line]
      exact cons isLine (fun x mem => by cases mem) (.nil (List.forall_mem_nil _))
    | @cons second other rows lines _ _ =>
      -- A line end is a blank in front of the next line.
      have lineEnd : ∀ x ∈ ['\n'], isSeparator x := List.forall_mem_singleton.mpr rfl
      have endsLine : EndsLine (['\n'] ++ ['\n'].intercalate (other :: lines)) := by
        rintro x ⟨⟩
        rfl
      rw [List.intercalate_cons_cons, List.append_assoc]
      exact cons isLine endsLine (ih.prepend lineEnd)

/-- What comes next in a text of rows is no comma and no colon. -/
theorem next_ne (isText : Rows rows text) {x : Char} (delimiter : isDelimiter x)
    (noComment : x ≠ '/') :
    next text ≠ some x := by
  have notFirst {token : Token} (solid : IsSolid token) : token.head? ≠ some x := by
    intro isFirst
    rw [solid.2 x (List.mem_of_head? isFirst)] at delimiter
    cases delimiter
  induction isText with
  | @nil gap blank =>
    rw [← List.append_nil gap, next_append blank]
    nofun
  | blank _ _ ih => exact ih
  | comment blank _ _ _ _ =>
    rw [List.append_assoc, next_append blank, List.cons_append, next_cons (by decide)]
    rintro ⟨⟩
    exact noComment rfl
  | label blank spells spaced _ _ _ _ _ =>
    rw [next_append blank, spaced.next_eq spells.isSolid]
    exact notFirst spells.isSolid
  | command spells spaced _ _ _ _ =>
    obtain ⟨token, others, rfl, solid⟩ := spells.head
    rw [spaced.next_eq solid]
    exact notFirst solid
  | labelled spells labelSpaced _ _ _ _ _ _ =>
    rw [labelSpaced.next_eq spells.isSolid]
    exact notFirst spells.isSolid

theorem dropWhile (isText : Rows rows text) : Rows rows (text.dropWhile isSeparator) := by
  induction isText with
  | nil blank => exact .nil fun x mem => blank x ((List.dropWhile_sublist _).subset mem)
  | blank noComment _ ih => exact .blank noComment ih
  | comment blank inLine endsLine others _ =>
    rw [List.append_assoc, List.dropWhile_append_of_pos blank]
    exact .comment (List.forall_mem_nil _) inLine endsLine others
  | @label _ _ _ text tailText _ _ _ blank spells spaced tails inLine endsLine others _ =>
    obtain ⟨text', same, spaced'⟩ := spaced.dropWhile spells.isSolid
    have sublist : (text' ++ tailText).Sublist (text ++ tailText) :=
      same tailText ▸ List.dropWhile_sublist _
    rw [List.dropWhile_append_of_pos blank, same]
    exact .label (List.forall_mem_nil _) spells spaced' tails
      (fun isTail mem => inLine isTail (sublist.subset mem)) endsLine others
  | command spells spaced tails endsLine others _ =>
    obtain ⟨token, tokens, rfl, solid⟩ := spells.head
    obtain ⟨text', same, spaced'⟩ := spaced.dropWhile solid
    rw [same]
    exact .command spells spaced' tails endsLine others
  | labelled spellsName labelSpaced spells spaced tails endsLine others _ =>
    obtain ⟨text', same, spaced'⟩ := labelSpaced.dropWhile spellsName.isSolid
    rw [same]
    exact .labelled spellsName spaced' spells spaced tails endsLine others

end Rows

/-! ## Tabs -/

theorem Tail.Spells.expandFrom {tail : Tail} {text : List Char} (spells : tail.Spells text)
    (column : Nat) : tail.Spells (expandFrom column text) := by
  cases spells with
  | nothing => exact .nothing
  | blanks some blank =>
    refine .blanks (fun nothing => some ?_) (blank_expandFrom column blank)
    exact head?_expandFrom_eq_none column _ nothing
  | @comment gap text blank inLine =>
    obtain ⟨column', split⟩ := expandFrom_append column gap ('/' :: '/' :: text)
    rw [split]
    exact .comment (blank_expandFrom column blank) (inLine_expandFrom _ inLine)

theorem inLine_expandFrom_append {text more : List Char} (column column' : Nat)
    (inLine : '\n' ∉ text ++ more) : '\n' ∉ expandFrom column text ++ expandFrom column' more := by
  rw [List.mem_append, not_or] at inLine ⊢
  exact ⟨inLine_expandFrom column inLine.1, inLine_expandFrom column' inLine.2⟩

/-- Rows stay rows when their tabs are expanded. -/
theorem Rows.expandFrom {rows : List Row} {text : List Char} (isText : Rows rows text)
    (column : Nat) :
    Rows rows (expandFrom column text) := by
  induction isText generalizing column with
  | nil blank => exact .nil (blank_expandFrom column blank)
  | blank noComment _ ih => exact .blank noComment (ih column)
  | @comment gap text rest rows blank inLine endsLine _ ih =>
    obtain ⟨column₁, split⟩ := expandFrom_append column (gap ++ '/' :: '/' :: text) rest
    obtain ⟨column₂, splitThen⟩ := expandFrom_append column gap ('/' :: '/' :: text)
    rw [split, splitThen]
    exact .comment (blank_expandFrom column blank) (inLine_expandFrom _ inLine)
      (endsLine.expandFrom column₁) (ih column₁)
  | @label name token gap text tailText rest tail rows blank spells spaced tails inLine endsLine _
      ih =>
    obtain ⟨column₁, split⟩ := expandFrom_append column gap (text ++ (tailText ++ rest))
    obtain ⟨column₂, splitThen⟩ := expandFrom_append column₁ text (tailText ++ rest)
    obtain ⟨column₃, splitLast⟩ := expandFrom_append column₂ tailText rest
    rw [split, splitThen, splitLast]
    exact .label (blank_expandFrom column blank) spells (spaced.expandFrom spells.kind column₁)
      (tails.expandFrom column₂)
      (fun isTail => inLine_expandFrom_append column₁ column₂ (inLine isTail))
      (endsLine.expandFrom column₃) (ih column₃)
  | @command command tokens text tailText rest tail rows spells spaced tails endsLine _ ih =>
    obtain ⟨column₁, split⟩ := expandFrom_append column text (tailText ++ rest)
    obtain ⟨column₂, splitThen⟩ := expandFrom_append column₁ tailText rest
    rw [split, splitThen]
    exact .command spells (spaced.expandFrom spells.isSolid_or_isMark column)
      (tails.expandFrom column₁) (endsLine.expandFrom column₂) (ih column₂)
  | @labelled name token command tokens labelText text tailText rest tail rows spellsName
      labelSpaced spells spaced tails endsLine _ ih =>
    obtain ⟨column₁, split⟩ := expandFrom_append column labelText (text ++ (tailText ++ rest))
    obtain ⟨column₂, splitThen⟩ := expandFrom_append column₁ text (tailText ++ rest)
    obtain ⟨column₃, splitLast⟩ := expandFrom_append column₂ tailText rest
    rw [split, splitThen, splitLast]
    exact .labelled spellsName (labelSpaced.expandFrom spellsName.kind column) spells
      (spaced.expandFrom spells.isSolid_or_isMark column₁) (tails.expandFrom column₂)
      (endsLine.expandFrom column₃) (ih column₃)

/-! ## Rows that are always legible -/

theorem SpellsName.toList_eq {name : String} {token : Token} (spells : SpellsName name token) :
    name.toList = token := by
  obtain ⟨first, rest, starts, others⟩ := spells
  exact String.toList_ofList

theorem misleads_iff {name : String} {token : Token} (spells : SpellsName name token)
    (command : Option Command) (tail : Tail) :
    Row.misleads ⟨some name, command, tail⟩ ↔ ¬ NotCommand token := by
  rw [← spells.toList_eq, Row.misleads, Option.any_some, Bool.not_eq_true', decide_eq_false_iff_not]

/-- Whether a row is read as what it holds wherever it stands. -/
structure Row.IsPlain (row : Row) : Prop where
  honest : row.misleads = false
  alone : row.label.isSome → row.command = none → row.tail = .nothing

theorem mem_of_upcoming? {comments : Nat} {rows : List Row} {row : Row}
    (found : upcoming? comments rows = some row) : row ∈ rows := by
  induction rows generalizing comments with
  | nil => cases found
  | cons first rows ih =>
    obtain ⟨label | name, command | command, tail⟩ := first
    case none.some | some.none | some.some =>
      obtain rfl := Option.some.inj found
      exact List.mem_cons_self
    by_cases isComment : tail = .comment
    · subst isComment
      cases comments with
      | zero => cases found
      | succ comments => exact List.mem_cons_of_mem _ (ih found)
    · rw [upcoming?_blank comments isComment] at found
      exact List.mem_cons_of_mem _ (ih found)

theorem honest_of_plain {rows : List Row} (honest : ∀ row ∈ rows, row.misleads = false)
    (comments : Nat) : (upcoming? comments rows).any Row.misleads = false := by
  cases found : upcoming? comments rows with
  | none => rfl
  | some row => exact honest row (mem_of_upcoming? found)

theorem legible_of_plain {rows : List Row} (plain : ∀ row ∈ rows, row.IsPlain) (behind : Bool) :
    legible behind rows := by
  induction rows generalizing behind with
  | nil => rfl
  | cons row rows ih =>
    obtain ⟨isPlain, others⟩ := List.forall_mem_cons.mp plain
    have honest := honest_of_plain fun row mem => (others row mem).honest
    obtain ⟨label, command | command, tail⟩ := row
    · cases label with
      | none =>
        cases tail with
        | nothing | blanks => exact ih others behind
        | comment =>
          rw [legible_comment behind (honest 0)]
          exact ih others behind
      | some name =>
        obtain rfl : tail = .nothing := isPlain.alone rfl rfl
        rw [legible_of_kept .nothing (keepsLabel_nothing (honest 1))]
        exact ih others false
    · exact ih others true

theorem Remark.exists_tail {text : List Char} (remark : Remark text) :
    ∃ tail : Tail, tail.Spells text := by
  cases remark with
  | blank blank =>
    cases text with
    | nil => exact ⟨.nothing, .nothing⟩
    | cons x text => exact ⟨.blanks, .blanks (List.cons_ne_nil x text) blank⟩
  | comment blank inLine => exact ⟨.comment, .comment blank inLine⟩

/-- The lines of a program hold plain rows. -/
theorem Line.exists_row {items : List Item} {line : List Char} (isLine : Line items line) :
    ∃ row : Row, row.Writes line ∧ row.items = items ∧ row.IsPlain := by
  have honest {name : String} {token : Token} (spells : SpellsName name token)
      (notCommand : NotCommand token) (command : Option Command) (tail : Tail) :
      Row.misleads ⟨some name, command, tail⟩ = false :=
    Bool.eq_false_iff.mpr fun misleads => (misleads_iff spells command tail).mp misleads notCommand
  cases isLine with
  | remark remark =>
    obtain ⟨tail, tails⟩ := remark.exists_tail
    exact ⟨⟨none, none, tail⟩, .empty tails, rfl, rfl, nofun⟩
  | @label name token text spells notCommand spaced =>
    refine ⟨⟨some name, none, .nothing⟩, ?_, rfl, honest spells notCommand _ _, fun _ _ => rfl⟩
    rw [← List.append_nil line]
    exact .label spells spaced .nothing fun isTail => absurd rfl isTail
  | @command command tokens text tailText spells spaced remark =>
    obtain ⟨tail, tails⟩ := remark.exists_tail
    exact ⟨⟨none, some command, tail⟩, .command spells spaced tails, rfl, rfl, nofun⟩
  | @labelled name token command tokens labelText text tailText spellsName notCommand labelSpaced
      spells spaced remark =>
    obtain ⟨tail, tails⟩ := remark.exists_tail
    exact ⟨⟨some name, some command, tail⟩,
      .labelled spellsName labelSpaced spells spaced tails, rfl,
      honest spellsName notCommand _ _, nofun⟩

theorem exists_rows_of_lines {parts : List (List Item)} {lines : List (List Char)}
    (areLines : List.Forall₂ Line parts lines) :
    ∃ rows : List Row, List.Forall₂ Row.Writes rows lines ∧ rows.map Row.items = parts ∧
      ∀ row ∈ rows, row.IsPlain := by
  induction areLines with
  | nil => exact ⟨[], .nil, rfl, List.forall_mem_nil _⟩
  | cons isLine _ ih =>
    obtain ⟨row, writes, rfl, isPlain⟩ := isLine.exists_row
    obtain ⟨rows, others, rfl, plain⟩ := ih
    exact ⟨row :: rows, .cons writes others, rfl, List.forall_mem_cons.mpr ⟨isPlain, plain⟩⟩

end ChipEight.Assembly
