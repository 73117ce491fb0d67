import ChipEight.Proofs.Assembly.BareText
import ChipEight.Proofs.Assembly.Items

/-!
# Programs line by line

The texts that programs are usually written as: every line is blank or holds a comment, a label, a
command, or a command with its label. Blanks may stand anywhere between tokens, and tabs among them
are as good as the spaces that stand for them.
-/

namespace ChipEight.Assembly

/-! ## Lines -/

/-- What may stand behind a command on its line: blanks, or a comment. -/
inductive Remark : List Char → Prop
  | blank {gap : List Char} (blank : ∀ x ∈ gap, isSeparator x) : Remark gap
  | comment {gap text : List Char} (blank : ∀ x ∈ gap, isSeparator x) (inLine : '\n' ∉ text) :
    Remark (gap ++ '/' :: '/' :: text)

/-- A line and the items on it. -/
inductive Line : List Item → List Char → Prop
  | remark {text : List Char} (remark : Remark text) : Line [] text
  | label {name : String} {token : Token} {text : List Char} (spells : SpellsName name token)
    (notCommand : NotCommand token) (spaced : Spaced true [token, [':']] text) :
    Line [.label name] text
  | command {command : Command} {tokens : List Token} {text tail : List Char}
    (spells : command.Spelled tokens) (spaced : Spaced true tokens text) (remark : Remark tail) :
    Line [.command command] (text ++ tail)
  | labelled {name : String} {token : Token} {command : Command} {tokens : List Token}
    {labelText text tail : List Char} (spellsName : SpellsName name token)
    (notCommand : NotCommand token) (labelSpaced : Spaced true [token, [':']] labelText)
    (spells : command.Spelled tokens) (spaced : Spaced true tokens text) (remark : Remark tail) :
    Line [.label name, .command command] (labelText ++ (text ++ tail))

/-! ## Spaced tokens -/

theorem Spaced.prepend {token : Token} {tokens : List Token} {gap text : List Char} {tight : Bool}
    (spaced : Spaced tight (token :: tokens) text) (blank : ∀ x ∈ gap, isSeparator x) :
    Spaced tight (token :: tokens) (gap ++ text) := by
  obtain _ | @⟨_, _, _, text, gap', blank', apart, others⟩ := spaced
  rw [List.append_assoc, ← List.append_assoc gap, ← List.append_assoc]
  refine .cons (gap ++ gap') (List.forall_mem_append.mpr ⟨blank, blank'⟩) (fun nothing => ?_) others
  exact apart (List.append_eq_nil_iff.mp nothing).2

theorem Spaced.prepend_command {command : Command} {tokens : List Token} {gap text : List Char}
    {tight : Bool} (spaced : Spaced tight tokens text) (spells : command.Spelled tokens)
    (blank : ∀ x ∈ gap, isSeparator x) :
    Spaced tight tokens (gap ++ text) := by
  obtain ⟨token, others, rfl, _⟩ := spells.head
  exact spaced.prepend blank

theorem Spaced.next_eq {token : Token} {tokens : List Token} {text : List Char} {tight : Bool}
    (spaced : Spaced tight (token :: tokens) text) (solid : IsSolid token) (rest : List Char) :
    next (text ++ rest) = token.head? := by
  obtain _ | @⟨_, _, _, text, gap, blank, _, _⟩ := spaced
  rw [List.append_assoc, List.append_assoc, next_append blank, solid.next]

theorem Spaced.next_ne_none {token : Token} {tokens : List Token} {text : List Char} {tight : Bool}
    (spaced : Spaced tight (token :: tokens) text) (solid : IsSolid token) (rest : List Char) :
    next (text ++ rest) ≠ none := by
  rw [spaced.next_eq solid, ne_eq, List.head?_eq_none_iff]
  exact solid.1

/-- At the beginning of a line, blanks in front of a token make no difference. -/
theorem Spaced.dropWhile {token : Token} {tokens : List Token} {text : List Char}
    (spaced : Spaced true (token :: tokens) text) (solid : IsSolid token) :
    ∃ text', (∀ rest, (text ++ rest).dropWhile isSeparator = text' ++ rest) ∧
      Spaced true (token :: tokens) text' := by
  obtain _ | @⟨_, _, _, text, gap, blank, _, others⟩ := spaced
  refine ⟨token ++ text, fun rest => ?_,
    .cons [] (List.forall_mem_nil _) (fun _ => .inl rfl) others⟩
  rw [List.append_assoc, List.append_assoc, List.dropWhile_append_of_pos blank, List.append_assoc]
  have notSeparator := solid.head?_all (text ++ rest)
  cases token with
  | nil => exact absurd rfl solid.1
  | cons x token =>
    rw [List.cons_append, List.dropWhile_cons_of_neg]
    simpa using notSeparator

theorem blank_space : ∀ x ∈ [' '], isSeparator x := List.forall_mem_singleton.mpr rfl

/-- Tokens with single spaces between them are well spaced. -/
theorem spaced_intercalate (tokens : List Token) :
    Spaced true tokens ([' '].intercalate tokens) := by
  have behind (first : Token) (tokens : List Token) (tight : Bool) (gap : List Char)
    (blank : ∀ x ∈ gap, isSeparator x)
      (apart : gap = [] → tight) : Spaced tight (first :: tokens)
      (gap ++ [' '].intercalate (first :: tokens)) := by
    induction tokens generalizing first tight gap with
    | nil =>
      rw [List.intercalate_singleton, ← List.append_nil (gap ++ first)]
      exact .cons gap blank (fun nothing => .inl (apart nothing)) .nil
    | cons second tokens ih =>
      rw [List.intercalate_cons_cons, List.append_assoc, ← List.append_assoc]
      exact .cons gap blank (fun nothing => .inl (apart nothing))
        (ih second _ [' '] blank_space nofun)
  cases tokens with
  | nil => exact .nil
  | cons first tokens => exact behind first tokens true [] (List.forall_mem_nil _) fun _ => rfl

/-- A label with its colon right behind it is well spaced. -/
theorem spaced_label (token : Token) : Spaced true [token, [':']] (token ++ [':']) :=
  .cons [] (List.forall_mem_nil _) (fun _ => .inl rfl)
  (.cons [] (List.forall_mem_nil _) (fun _ => .inr rfl) .nil)

/-! ## Tabs -/

theorem expandFrom_append (column : Nat) (text more : List Char) :
    ∃ column',
      expandFrom column (text ++ more) = expandFrom column text ++ expandFrom column' more := by
  induction text generalizing column with
  | nil => exact ⟨column, rfl⟩
  | cons x text ih =>
    rw [List.cons_append, expandFrom, expandFrom]
    by_cases tab : x = '\t'
    · obtain ⟨column', same⟩ := ih (column + (Text.Tabs.stop - column % Text.Tabs.stop))
      refine ⟨column', ?_⟩
      simp only [if_pos tab, same, List.append_assoc]
    · obtain ⟨column', same⟩ := ih (if x = '\n' ∨ x = '\r' then 0 else column + 1)
      refine ⟨column', ?_⟩
      rw [if_neg tab, if_neg tab, same, List.cons_append]

theorem expandFrom_eq_self (column : Nat) (text : List Char) (noTab : '\t' ∉ text) :
    expandFrom column text = text := by
  induction text generalizing column with
  | nil => rfl
  | cons x text ih =>
    obtain ⟨notTab, others⟩ := List.ne_and_not_mem_of_not_mem_cons noTab
    rw [expandFrom, if_neg notTab.symm, ih _ others]

theorem mem_of_mem_expandFrom (column : Nat) (text : List Char) :
    ∀ x ∈ expandFrom column text, x = ' ' ∨ x ∈ text := by
  induction text generalizing column with
  | nil => exact List.forall_mem_nil _
  | cons y text ih =>
    intro x mem
    rw [expandFrom] at mem
    split at mem
    · obtain space | later := List.mem_append.mp mem
      · exact .inl (List.eq_of_mem_replicate space)
      · exact (ih _ x later).imp_right (List.mem_cons_of_mem y)
    · obtain rfl | later := List.mem_cons.mp mem
      · exact .inr List.mem_cons_self
      · exact (ih _ x later).imp_right (List.mem_cons_of_mem y)

theorem head?_expandFrom_eq_none (column : Nat) (text : List Char)
    (nothing : expandFrom column text = []) : text = [] := by
  cases text with
  | nil => rfl
  | cons x text =>
    rw [expandFrom] at nothing
    split at nothing
    · -- A tab stands for at least one space.
      have spaces := congrArg List.length (List.append_eq_nil_iff.mp nothing).1
      rw [List.length_replicate, List.length_nil, Text.Tabs.stop] at spaces
      omega
    · cases nothing

theorem blank_expandFrom {gap : List Char} (column : Nat) (blank : ∀ x ∈ gap, isSeparator x) :
    ∀ x ∈ expandFrom column gap, isSeparator x := by
  intro x mem
  obtain rfl | before := mem_of_mem_expandFrom column gap x mem
  · rfl
  · exact blank x before

theorem inLine_expandFrom {text : List Char} (column : Nat) (inLine : '\n' ∉ text) :
    '\n' ∉ expandFrom column text := by
  intro mem
  obtain space | before := mem_of_mem_expandFrom column text '\n' mem
  · cases space
  · exact inLine before

theorem EndsLine.expandFrom {text : List Char} (column : Nat) (endsLine : EndsLine text) :
    EndsLine (expandFrom column text) := by
  cases text with
  | nil => exact endsLine
  | cons x text =>
    obtain rfl := endsLine x rfl
    exact endsLine

theorem noTab_of_kind {token : Token} (kind : IsSolid token ∨ isMark token) : '\t' ∉ token := by
  obtain solid | mark := kind
  · intro mem
    exact absurd (solid.2 '\t' mem) (by decide)
  · obtain comma | colon := Bool.or_eq_true_iff.mp mark
    · rw [beq_iff_eq.mp comma]
      decide
    · rw [beq_iff_eq.mp colon]
      decide

theorem Spaced.expandFrom {tight : Bool} {tokens : List Token} {text : List Char}
    (spaced : Spaced tight tokens text) (kind : ∀ token ∈ tokens, IsSolid token ∨ isMark token)
    (column : Nat) :
    Spaced tight tokens (expandFrom column text) := by
  induction spaced generalizing column with
  | nil => exact .nil
  | @cons tight token tokens text gap blank apart others ih =>
    obtain ⟨kindFirst, kindOthers⟩ := List.forall_mem_cons.mp kind
    obtain ⟨column₁, split⟩ := expandFrom_append column (gap ++ token) text
    obtain ⟨column₂, splitThen⟩ := expandFrom_append column gap token
    -- Tokens hold no tabs, so only the gaps between them change.
    rw [split, splitThen, expandFrom_eq_self column₂ token (noTab_of_kind kindFirst)]
    refine .cons _ (blank_expandFrom column blank) (fun nothing => ?_) (ih kindOthers column₁)
    exact apart (head?_expandFrom_eq_none column gap nothing)

theorem SpellsName.kind {name : String} {token : Token} (spells : SpellsName name token) :
    ∀ part ∈ ([token, [':']] : List Token), IsSolid part ∨ isMark part := by
  rw [List.forall_mem_cons, List.forall_mem_singleton]
  exact ⟨.inl spells.isSolid, .inr rfl⟩

theorem Command.Spelled.isSolid_or_isMark {command : Command} {tokens : List Token}
    (spells : command.Spelled tokens) :
    ∀ token ∈ tokens, IsSolid token ∨ isMark token := by
  intro token mem
  obtain solid | rfl := spells.kind token mem
  · exact .inl solid
  · exact .inr rfl

end ChipEight.Assembly
