import ChipEight.Proofs.Assembly.Lines
import ChipEight.Proofs.Assembly.Soundness

/-!
# Stretches of a text

Which of its alternatives a stretch takes. A stretch is not always a line: with the comment in front
of it, or a label on a line of its own, a command makes one stretch, to which all comments up to the
next item belong. The rest of the line wins over a label alone or a comment alone only if it is
longer.
-/

namespace ChipEight.Assembly

/-! ## How far scans come -/

theorem Cursor.Leads.position_le {c c' : Cursor} (leads : c.Leads c') {taken rest : List Char}
    (ahead : c.rest = taken ++ rest) (shorter : c'.rest.length ≤ rest.length) :
    c.position + taken.length ≤ c'.position := by
  obtain ⟨passed, aheadThen, position⟩ := leads
  have lengths := congrArg List.length (ahead.symm.trans aheadThen)
  rw [List.length_append, List.length_append] at lengths
  omega

theorem Cursor.Leads.position_mono {c c' : Cursor} (leads : c.Leads c') :
    c.position ≤ c'.position := by
  obtain ⟨taken, _, position⟩ := leads
  rw [position]
  exact Nat.le_add_right _ _

theorem Remark.ends {tail rest : List Char} (remark : Remark tail) (endsLine : EndsLine rest) :
    Ends (tail ++ rest) := by
  cases remark with
  | blank blank =>
    cases tail with
    | nil => exact endsLine.ends
    | cons x tail => exact ends_cons (isDelimiter_of_isSeparator (blank x List.mem_cons_self))
  | @comment gap text blank inLine =>
    cases gap with
    | nil => exact ends_cons (by decide)
    | cons x gap => exact ends_cons (isDelimiter_of_isSeparator (blank x List.mem_cons_self))

theorem fresh_of_label {token : Token} {text : List Char} {tight : Bool}
    (spaced : Spaced tight [token, [':']] text) (c : Cursor) (rest : List Char) :
    (c.move text rest).Fresh := by
  obtain _ | @⟨_, _, _, _, gap, _, _, spaced⟩ := spaced
  obtain _ | @⟨_, _, _, _, gap', _, _, nothing⟩ := spaced
  cases nothing
  intro x _ _
  rw [Cursor.move, List.append_nil, ← List.append_assoc, List.getLast?_append]
  rfl

theorem fresh_of_blank {c : Cursor} (blank : ∀ x ∈ c.rest.head?, isSeparator x) : c.Fresh := by
  intro x mem notSeparator
  rw [blank x mem] at notSeparator
  cases notSeparator

theorem EndsLine.blank {text : List Char} (endsLine : EndsLine text) :
    ∀ x ∈ text.head?, isSeparator x := by
  intro x mem
  rw [endsLine x mem]
  rfl

namespace Scan

variable {c c₁ c' : Cursor} {gap text taken rest : List Char} {items : List Item}

theorem length_takeWhile_le (taken : List Char) (endsLine : EndsLine rest) :
    ((taken ++ rest).takeWhile (· != '\n')).length ≤ taken.length := by
  induction taken with
  | nil =>
    cases rest with
    | nil => exact Nat.le_refl _
    | cons x rest =>
      obtain rfl := endsLine x rfl
      exact Nat.le_refl _
  | cons x taken ih =>
    rw [List.cons_append, List.takeWhile_cons]
    split
    · exact Nat.succ_le_succ ih
    · exact Nat.zero_le _

theorem head?_dropWhile (text : List Char) :
    ∀ x ∈ (text.dropWhile isSeparator).head?, isSeparator x = false := by
  intro x mem
  have first := List.head?_dropWhile_not isSeparator text
  rw [mem] at first
  exact first

/-- A text that is not blank has a first character that is not. -/
theorem exists_of_next (notBlank : next text ≠ none) :
    ∃ gap x more, text = gap ++ x :: more ∧ (∀ y ∈ gap, isSeparator y) ∧ isSeparator x = false := by
  have split : text.takeWhile isSeparator ++ text.dropWhile isSeparator = text :=
    List.takeWhile_append_dropWhile
  have first := head?_dropWhile text
  rw [next] at notBlank
  cases begins : text.dropWhile isSeparator with
  | nil =>
    rw [begins] at notBlank
    exact absurd rfl notBlank
  | cons x more =>
    rw [begins] at first split
    exact ⟨_, x, more, split.symm, fun y mem => List.mem_takeWhile_imp mem, first x rfl⟩

/-- The rest of a line does not reach beyond the end of the line. -/
theorem line_position (ahead : c.rest = taken ++ rest) (notBlank : next taken ≠ none)
    (endsLine : EndsLine rest) (leads : c.Leads c') (shorter : c'.rest.length ≤ rest.length)
    (result : String) (c'' : Cursor) (found : line c = some (result, c'')) :
    c''.position ≤ c'.position := by
  have far := leads.position_le ahead shorter
  obtain ⟨gap, x, more, rfl, blank, notSeparator⟩ := exists_of_next notBlank
  rw [List.append_assoc, List.cons_append] at ahead
  rw [line_of_first blank notSeparator ahead] at found
  obtain ⟨_, rfl⟩ := Prod.mk.inj (Option.some.inj found)
  have ends := length_takeWhile_le more endsLine
  simp only [Cursor.move, List.length_append, List.length_cons] at far ⊢
  omega

/-- A line is read up to its end. -/
theorem line_of_inLine (blank : ∀ x ∈ gap, isSeparator x)
    (ahead : c.rest = gap ++ (text ++ rest)) (inLine : '\n' ∉ text) (notBlank : next text ≠ none)
    (endsLine : EndsLine rest) : ∃ result, line c = some (result, c.move (gap ++ text) rest) := by
  obtain ⟨gap', x, more, rfl, blank', notSeparator⟩ := exists_of_next notBlank
  have within : ∀ y ∈ more, (y != '\n') = true := by
    intro y mem
    rw [bne_iff_ne]
    rintro rfl
    exact inLine (List.mem_append_right gap' (List.mem_cons_of_mem x mem))
  have stops : rest.takeWhile (· != '\n') = [] ∧ rest.dropWhile (· != '\n') = rest := by
    cases rest with
    | nil => exact ⟨rfl, rfl⟩
    | cons y rest =>
      obtain rfl := endsLine y rfl
      exact ⟨rfl, rfl⟩
  have aheadAll : c.rest = (gap ++ gap') ++ x :: (more ++ rest) := by
    rw [ahead, List.append_assoc, List.append_assoc, List.cons_append]
  rw [line_of_first (List.forall_mem_append.mpr ⟨blank, blank'⟩) notSeparator aheadAll,
    List.takeWhile_append_of_pos within, List.dropWhile_append_of_pos within, stops.1, stops.2,
    List.append_nil, List.append_assoc]
  exact ⟨_, rfl⟩

/-! ## Statements -/

/-- What is read of a statement behind its label and the comment between the two. -/
def uncommented (label : Option String) : Scan (List Item) := do
  let command ← Scan.command
  let _ ← all comment
  separators
  return (label.map Item.label).toList ++ [.command command]

/-- What is read of a statement behind its label. -/
def unlabelled (label : Option String) : Scan (List Item) := do
  let _ ← optional comment
  uncommented label

theorem reads_uncommented (label : Option String) : Reads (uncommented label) fun _ _ => True :=
  reads_command.bind fun _ _ _ => reads_comments.silent_bind fun _ =>
  reads_separators.silent_bind fun _ => .pure _ trivial

theorem reads_unlabelled (label : Option String) : Reads (unlabelled label) fun _ _ => True := by
  have comments : Reads (optional comment) fun _ spelled => spelled = [] :=
    reads_comment.optional.mono fun result spelled holds => by cases result <;> exact holds
  exact comments.silent_bind fun _ => reads_uncommented label

theorem statement_of_label {name : String} (found : label c = some (name, c₁)) :
    statement c = unlabelled (some name) c₁ :=
  bind_of_eq_some _ (optional_of_eq_some found)

theorem statement_of_no_label (missing : label c = none) : statement c = unlabelled none c :=
  bind_of_eq_some _ (optional_of_eq_none missing)

theorem unlabelled_of_comment (name : Option String) (found : comment c = some ((), c₁)) :
    unlabelled name c = uncommented name c₁ := bind_of_eq_some _ (optional_of_eq_some found)

theorem unlabelled_of_no_comment (name : Option String) (missing : comment c = none) :
    unlabelled name c = uncommented name c := bind_of_eq_some _ (optional_of_eq_none missing)

theorem uncommented_eq_none (name : Option String) (missing : Scan.command c = none) :
    uncommented name c = none :=
  bind_of_eq_none _ missing

/-- Behind a statement, the cursor is at no blank. -/
theorem uncommented_stops {label : Option String} {items : List Item}
    (found : uncommented label c = some (items, c')) :
    ∀ x ∈ c'.rest.head?, isSeparator x = false := by
  obtain ⟨_, c₁, _, found⟩ := (bind_eq_some_iff _ _ c c' items).mp found
  obtain ⟨_, c₂, _, found⟩ := (bind_eq_some_iff _ _ c₁ c' items).mp found
  obtain ⟨_, c₃, passed, done⟩ := (bind_eq_some_iff _ _ c₂ c' items).mp found
  obtain ⟨_, rfl⟩ := Prod.mk.inj (Option.some.inj done)
  rw [separators_eq] at passed
  obtain ⟨_, rfl⟩ := Prod.mk.inj (Option.some.inj passed)
  exact head?_dropWhile c₂.rest

theorem unlabelled_stops {label : Option String} {items : List Item}
    (found : unlabelled label c = some (items, c')) :
    ∀ x ∈ c'.rest.head?, isSeparator x = false := by
  obtain ⟨_, c₁, _, found⟩ := (bind_eq_some_iff _ _ c c' items).mp found
  exact uncommented_stops found

/-! ## Which alternative is taken -/

theorem comment_of_label {name : String} (found : label c = some (name, c₁)) :
    comment c = none := by
  apply comment_eq_none
  intro slash
  have other : ∀ x ∈ next c.rest, startsName x = false := by
    rw [slash]
    rintro x ⟨⟩
    decide
  rw [label_eq_none other] at found
  cases found

def labelAlone : Scan (List Item) := do return [.label (← label)]

def commentAlone : Scan (List Item) := do
  comment
  return []

def unknownLine : Scan (List Item) := do return [.unknown (← line)]

theorem stretch_eq : stretch = longest [statement, labelAlone, commentAlone, unknownLine] := rfl

theorem labelAlone_eq_some {name : String} (found : label c = some (name, c₁)) :
    labelAlone c = some ([.label name], c₁) := bind_of_eq_some _ found

theorem commentAlone_eq_some (found : comment c = some ((), c₁)) : commentAlone c = some ([], c₁) :=
  bind_of_eq_some _ found

theorem label_of_labelAlone (found : labelAlone c = some (items, c₁)) :
    ∃ name, label c = some (name, c₁) := by
  obtain ⟨name, c', foundLabel, done⟩ := (bind_eq_some_iff _ _ c c₁ items).mp found
  obtain ⟨_, rfl⟩ := Prod.mk.inj (Option.some.inj done)
  exact ⟨name, foundLabel⟩

theorem comment_of_commentAlone (found : commentAlone c = some (items, c₁)) :
    comment c = some ((), c₁) := by
  obtain ⟨_, c', foundComment, done⟩ := (bind_eq_some_iff _ _ c c₁ items).mp found
  obtain ⟨_, rfl⟩ := Prod.mk.inj (Option.some.inj done)
  exact foundComment

theorem line_of_unknownLine (found : unknownLine c = some (items, c₁)) :
    ∃ result, line c = some (result, c₁) := by
  obtain ⟨result, c', foundLine, done⟩ := (bind_eq_some_iff _ _ c c₁ items).mp found
  obtain ⟨_, rfl⟩ := Prod.mk.inj (Option.some.inj done)
  exact ⟨result, foundLine⟩

/-- A statement is taken if the rest of the line comes no farther: a label or a comment alone never
    does. -/
theorem stretch_of_statement (found : statement c = some (items, c'))
    (noLonger : ∀ result c'', line c = some (result, c'') → c''.position ≤ c'.position) :
    stretch c = some (items, c') := by
  have best : longest ([] ++ statement :: [labelAlone, commentAlone, unknownLine]) c =
      some (items, c') := by
    refine longest_of_best found (List.forall_mem_nil _) ?_
    simp only [List.forall_mem_cons, List.not_mem_nil, false_imp_iff, implies_true, and_true]
    refine ⟨fun b c'' other => ?_, fun b c'' other => ?_, fun b c'' other => ?_⟩
    · -- The statement begins with the same label, and goes on behind it.
      obtain ⟨name, foundLabel⟩ := label_of_labelAlone other
      rw [statement_of_label foundLabel] at found
      exact (reads_unlabelled _ c'' items c' found).1.position_mono
    · -- Without a label the statement begins with the same comment. With one, there is no comment
      -- here.
      have foundComment := comment_of_commentAlone other
      cases noLabel : label c with
      | some result =>
        rw [comment_of_label noLabel] at foundComment
        cases foundComment
      | none =>
        rw [statement_of_no_label noLabel, unlabelled_of_comment none foundComment] at found
        exact (reads_uncommented _ c'' items c' found).1.position_mono
    · obtain ⟨result, foundLine⟩ := line_of_unknownLine other
      exact noLonger result c'' foundLine
  exact best

/-- A label is taken if no command belongs to it. -/
theorem stretch_of_label {name : String} (found : label c = some (name, c₁))
    (noStatement : statement c = none)
    (noLonger : ∀ result c'', line c = some (result, c'') → c''.position ≤ c₁.position) :
    stretch c = some ([.label name], c₁) := by
  have best : longest ([statement] ++ labelAlone :: [commentAlone, unknownLine]) c =
      some ([.label name], c₁) := by
    apply longest_of_best (labelAlone_eq_some found)
    · rw [List.forall_mem_singleton, noStatement]
      nofun
    · simp only [List.forall_mem_cons, List.not_mem_nil, false_imp_iff, implies_true, and_true]
      refine ⟨fun b c'' other => ?_, fun b c'' other => ?_⟩
      · -- A label does not begin like a comment.
        have foundComment := comment_of_commentAlone other
        rw [comment_of_label found] at foundComment
        cases foundComment
      · obtain ⟨result, foundLine⟩ := line_of_unknownLine other
        exact noLonger result c'' foundLine
  exact best

/-- A comment is taken if no command comes next. -/
theorem stretch_of_comment (found : comment c = some ((), c₁)) (noLabel : label c = none)
    (noStatement : statement c = none)
    (noLonger : ∀ result c'', line c = some (result, c'') → c''.position ≤ c₁.position) :
    stretch c = some ([], c₁) := by
  have best : longest ([statement, labelAlone] ++ commentAlone :: [unknownLine]) c =
      some ([], c₁) := by
    apply longest_of_best (commentAlone_eq_some found)
    · simp only [List.forall_mem_cons, List.not_mem_nil, false_imp_iff, implies_true, and_true]
      refine ⟨by rw [noStatement]; nofun, fun b c'' other => ?_⟩
      obtain ⟨name, foundLabel⟩ := label_of_labelAlone other
      rw [noLabel] at foundLabel
      cases foundLabel
    · rw [List.forall_mem_singleton]
      intro b c'' other
      obtain ⟨result, foundLine⟩ := line_of_unknownLine other
      exact noLonger result c'' foundLine
  exact best

/-- A label is given up if no command belongs to it and the line goes on. -/
theorem stretch_of_line {name : String} {result : String} (found : label c = some (name, c₁))
    (noStatement : statement c = none) (foundLine : line c = some (result, c'))
    (longer : c₁.position < c'.position) :
    stretch c = some ([.unknown result], c') := by
  have isUnknown : unknownLine c = some ([.unknown result], c') := bind_of_eq_some _ foundLine
  have best : longest ([statement, labelAlone, commentAlone] ++ [unknownLine]) c =
      some ([.unknown result], c') := by
    apply longest_of_best isUnknown
    · simp only [List.forall_mem_cons, List.not_mem_nil, false_imp_iff, implies_true, and_true]
      refine ⟨by rw [noStatement]; nofun, fun b c'' other => ?_, fun b c'' other => ?_⟩
      · rw [labelAlone_eq_some found] at other
        obtain ⟨_, rfl⟩ := Prod.mk.inj (Option.some.inj other)
        exact longer
      · have foundComment := comment_of_commentAlone other
        rw [comment_of_label found] at foundComment
        cases foundComment
    · exact List.forall_mem_nil _
  exact best

/-- There is no stretch where there is nothing but blanks. -/
theorem stretch_eq_none (blank : ∀ x ∈ c.rest, isSeparator x) : stretch c = none := by
  have nothing : next c.rest = none := by
    rw [← List.append_nil c.rest, next_append blank]
    rfl
  have noLabel : label c = none := label_eq_none (by rw [nothing]; nofun)
  have noComment : comment c = none := comment_eq_none (by rw [nothing]; nofun)
  have noCommand : Scan.command c = none := command_eq_none_of_next (by rw [nothing]; nofun)
  rw [stretch_eq]
  apply longest_eq_none
  simp only [List.forall_mem_cons, List.not_mem_nil, false_imp_iff, implies_true, and_true]
  refine ⟨?_, bind_of_eq_none _ noLabel, bind_of_eq_none _ noComment, bind_of_eq_none _ ?_⟩
  · rw [statement_of_no_label noLabel, unlabelled_of_no_comment none noComment,
      uncommented_eq_none none noCommand]
  · rw [line, separators_bind _ blank (List.append_nil c.rest).symm rfl]
    exact bind_of_eq_none _ (someOf_eq_none rfl)

/-- Where no item can begin, the rest of the line is unknown. -/
theorem stretch_of_unknown {x : Char} {more : List Char} (notSeparator : isSeparator x = false)
    (notKeyword : isKeywordChar x = false) (notSlash : x ≠ '/') (ahead : c.rest = x :: more) :
    stretch c = some ([.unknown (String.ofList (x :: more.takeWhile (· != '\n')))],
      c.move (x :: more.takeWhile (· != '\n')) (more.dropWhile (· != '\n'))) := by
  have isNext : next c.rest = some x := by rw [ahead, next_cons notSeparator]
  have notName : startsName x = false := by
    rw [Bool.eq_false_iff]
    intro starts
    rw [isKeywordChar_of_isNameChar (isNameChar_of_startsName starts)] at notKeyword
    cases notKeyword
  have noLabel : label c = none := by
    apply label_eq_none
    rw [isNext]
    rintro _ ⟨⟩
    exact notName
  have noComment : comment c = none := by
    apply comment_eq_none
    rw [isNext]
    rintro ⟨⟩
    exact notSlash rfl
  have noCommand : Scan.command c = none := by
    apply command_eq_none_of_next
    rw [isNext]
    rintro _ ⟨⟩
    exact notKeyword
  have foundLine := line_of_first (List.forall_mem_nil _) notSeparator ahead
  have found : unknownLine c = some ([.unknown (String.ofList (x :: more.takeWhile (· != '\n')))],
      c.move (x :: more.takeWhile (· != '\n')) (more.dropWhile (· != '\n'))) :=
    bind_of_eq_some _ foundLine
  have best : longest ([statement, labelAlone, commentAlone] ++ [unknownLine]) c =
      some ([.unknown (String.ofList (x :: more.takeWhile (· != '\n')))],
        c.move (x :: more.takeWhile (· != '\n')) (more.dropWhile (· != '\n'))) := by
    apply longest_of_best found
    · simp only [List.forall_mem_cons, List.not_mem_nil, false_imp_iff, implies_true, and_true]
      have noStatement : statement c = none := by
        rw [statement_of_no_label noLabel, unlabelled_of_no_comment none noComment,
          uncommented_eq_none none noCommand]
      have noLabelAlone : labelAlone c = none := bind_of_eq_none _ noLabel
      have noCommentAlone : commentAlone c = none := bind_of_eq_none _ noComment
      rw [noStatement, noLabelAlone, noCommentAlone]
      exact ⟨nofun, nofun, nofun⟩
    · exact List.forall_mem_nil _
  exact best

/-! ## What comes between items -/

theorem comment_eq_none_of_solid {token : Token} (solid : IsSolid token)
    (first : next c.rest = token.head?) :
    comment c = none := by
  apply comment_eq_none
  rw [first]
  intro isSlash
  exact absurd (solid.2 '/' (List.mem_of_head? isSlash)) (by decide)

theorem many_eq_nil {α : Type} {p : Scan α} (missing : p c = none) (limit : Nat) :
    many p limit c = some ([], c) := by
  cases limit with
  | zero => rfl
  | succ limit => exact bind_of_eq_some _ (optional_of_eq_none missing)

theorem next_eq_none (blank : ∀ x ∈ gap, isSeparator x) : next gap = none := by
  rw [← List.append_nil gap, next_append blank]
  rfl

/-- Behind the blanks that come next, no word has begun. -/
theorem separators_of_blank (blank : ∀ x ∈ c.rest.head?, isSeparator x) :
    ∃ c', separators c = some ((), c') ∧ c.Leads c' ∧ c'.rest = c.rest.dropWhile isSeparator ∧
      c'.Fresh := by
  refine ⟨_, separators_eq c, ⟨_, List.takeWhile_append_dropWhile.symm, rfl⟩, rfl, ?_⟩
  cases ahead : c.rest with
  | nil => nofun
  | cons x rest =>
    -- At least one blank has been passed.
    have separates : isSeparator x := blank x (by rw [ahead]; rfl)
    intro _ _ _
    rw [List.takeWhile_cons, if_pos separates]
    have passed : ∀ y ∈ x :: rest.takeWhile isSeparator, isSeparator y :=
      List.forall_mem_cons.mpr ⟨separates, fun y mem => List.mem_takeWhile_imp mem⟩
    exact before_of_gap (c := c) passed nofun

/-- Behind blanks, a scan that stops at none has come as far as the text behind them. -/
theorem length_le_of_stops (blank : ∀ x ∈ gap, isSeparator x) (ahead : c.rest = gap ++ rest)
    (leads : c.Leads c') (stops : ∀ x ∈ c'.rest.head?, isSeparator x = false) :
    c'.rest.length ≤ rest.length := by
  obtain ⟨taken, aheadThen, _⟩ := leads
  obtain ⟨more, _, isRest⟩ | ⟨more, isGap, isRest⟩ :=
    List.append_eq_append_iff.mp (ahead.symm.trans aheadThen)
  · rw [isRest, List.length_append]
    exact Nat.le_add_left _ _
  · cases more with
    | nil => rw [isRest, List.nil_append]
    | cons x more =>
      have separates := blank x (isGap ▸ List.mem_append_right taken List.mem_cons_self)
      rw [stops x (by rw [isRest]; rfl)] at separates
      cases separates

end Scan

end ChipEight.Assembly
