import ChipEight.Proofs.Assembly.Soundness

/-!
# How long numbers get

The digits of a number lie side by side in the text, so no number has more of them than the longest
run of letters, digits and underscores in it. `Scan.Yields` carries that from the characters through
the scans: a scan that begins in a text with short runs leaves one and answers short numbers only.
-/

namespace ChipEight.Assembly

/-! ## Runs -/

/-- Whether no run of letters, digits and underscores in a text is longer than `limit`. -/
def RunsWithin (limit : Nat) (text : List Char) : Prop :=
  ∀ run, run <:+: text → (∀ x ∈ run, isNameChar x) → run.length ≤ limit

variable {limit : Nat}

theorem RunsWithin.of_suffix {text rest : List Char} (short : RunsWithin limit text)
    (behind : rest <:+ text) :
    RunsWithin limit rest :=
  fun run inside => short run (inside.trans behind.isInfix)

theorem RunsWithin.of_leads {c c' : Cursor} (short : RunsWithin limit c.rest) (leads : c.Leads c') :
    RunsWithin limit c'.rest := by
  obtain ⟨taken, ahead, _⟩ := leads
  exact short.of_suffix ⟨taken, ahead.symm⟩

theorem eq_nil_of_prefix_cons {run text : List Char} {x : Char} (begins : run <+: x :: text)
    (areName : ∀ x ∈ run, isNameChar x) (notName : isNameChar x = false) :
    run = [] := by
  cases run with
  | nil => rfl
  | cons y run =>
    obtain ⟨rfl, _⟩ := List.cons_prefix_cons.mp begins
    rw [areName y List.mem_cons_self] at notName
    cases notName

/-- Spaces in front of a text add no run to it. -/
theorem infix_of_spaces {run text : List Char} {n : Nat}
    (inside : run <:+: List.replicate n ' ' ++ text) (areName : ∀ x ∈ run, isNameChar x) :
    run <:+: text := by
  induction n with
  | zero => exact inside
  | succ n ih =>
    rw [List.replicate_succ, List.cons_append, List.infix_cons_iff] at inside
    obtain begins | inside := inside
    · rw [eq_nil_of_prefix_cons begins areName (by decide)]
      exact List.nil_infix
    · exact ih inside

theorem prefix_of_prefix_expandFrom {run text : List Char} {column : Nat}
    (begins : run <+: expandFrom column text) (areName : ∀ x ∈ run, isNameChar x) :
    run <+: text := by
  induction text generalizing run column with
  | nil => exact begins
  | cons c text ih =>
    rw [expandFrom] at begins
    split at begins
    · -- A tab stands for at least one space, and no run begins with that.
      obtain ⟨gap, isGap⟩ : ∃ gap, Text.Tabs.stop - column % Text.Tabs.stop = gap + 1 :=
        ⟨7 - column % 8, by rw [Text.Tabs.stop]; omega⟩
      simp only [isGap, List.replicate_succ, List.cons_append] at begins
      rw [eq_nil_of_prefix_cons begins areName (by decide)]
      exact List.nil_prefix
    · cases run with
      | nil => exact List.nil_prefix
      | cons x run =>
        obtain ⟨rfl, begins⟩ := List.cons_prefix_cons.mp begins
        exact List.cons_prefix_cons.mpr
          ⟨rfl, ih begins fun y mem => areName y (List.mem_cons_of_mem x mem)⟩

theorem infix_of_infix_expandFrom {run text : List Char} {column : Nat}
    (inside : run <:+: expandFrom column text) (areName : ∀ x ∈ run, isNameChar x) :
    run <:+: text := by
  induction text generalizing column with
  | nil => exact inside
  | cons c text ih =>
    by_cases tab : c = '\t'
    · rw [expandFrom, if_pos tab] at inside
      exact List.infix_cons (ih (infix_of_spaces inside areName))
    · have whole := inside
      rw [expandFrom, if_neg tab, List.infix_cons_iff] at inside
      obtain begins | inside := inside
      · rw [show c :: _ = expandFrom column (c :: text) by rw [expandFrom, if_neg tab]] at begins
        exact (prefix_of_prefix_expandFrom begins areName).isInfix
      · exact List.infix_cons (ih inside)

/-- Tabs are no part of a run, and neither are the spaces that they stand for. -/
theorem RunsWithin.expand {text : List Char} (short : RunsWithin limit text) :
    RunsWithin limit (Text.Tabs.expand text) := by
  intro run inside areName
  rw [expand_eq] at inside
  exact short run (infix_of_infix_expandFrom inside areName) areName

/-! ## Scans -/

namespace Scan

variable {α β : Type}

/-- Whether a scan, when it begins in a text with runs within the limit, leaves such a text and
    answers what `Q` holds of. -/
def Yields (limit : Nat) (p : Scan α) (Q : α → Prop) : Prop :=
  ∀ c a c', RunsWithin limit c.rest → p c = some (a, c') → RunsWithin limit c'.rest ∧ Q a

namespace Yields

variable {p q : Scan α} {Q R : α → Prop}

/-- What only passes over text shortens its runs at most. -/
theorem of_reads {P : α → List Char → Prop} (reads : Reads p P) :
    Yields limit p fun _ => True :=
  fun c a c' short found => ⟨short.of_leads (reads c a c' found).1, trivial⟩

theorem mono (yields : Yields limit p Q) (weaker : ∀ a, Q a → R a) : Yields limit p R :=
  fun c a c' short found => (yields c a c' short found).imp_right (weaker a)

theorem pure (a : α) (holds : Q a) : Yields limit (Pure.pure a) Q := by
  intro c b c' short found
  obtain ⟨rfl, rfl⟩ := Prod.mk.inj (Option.some.inj found)
  exact ⟨short, holds⟩

theorem bind {next : α → Scan β} {S : β → Prop} (first : Yields limit p Q)
    (second : ∀ a, Q a → Yields limit (next a) S) :
    Yields limit (p >>= next) S := by
  intro c b c'' short found
  obtain ⟨a, c', foundFirst, foundSecond⟩ := (bind_eq_some_iff p next c c'' b).mp found
  obtain ⟨shortThen, holds⟩ := first c a c' short foundFirst
  exact second a holds c' b c'' shortThen foundSecond

theorem orElse (first : Yields limit p Q) (second : Yields limit q Q) :
    Yields limit (p <|> q) Q := by
  intro c a c' short found
  change (p c <|> q c) = some (a, c') at found
  cases foundFirst : p c with
  | none =>
    rw [foundFirst] at found
    exact second c a c' short found
  | some result =>
    rw [foundFirst] at found
    obtain rfl := Option.some.inj found
    exact first c a c' short foundFirst

theorem map {f : α → β} {S : β → Prop} (yields : Yields limit p fun a => S (f a)) :
    Yields limit (f <$> p) S := by
  have same : f <$> p = p >>= fun a => Pure.pure (f a) := rfl
  rw [same]
  exact yields.bind fun a holds => .pure (f a) holds

theorem optional (yields : Yields limit p Q) :
    Yields limit (optional p) fun result => ∀ a, result = some a → Q a := by
  refine orElse (map (yields.mono ?_)) (.pure none nofun)
  rintro a holds _ ⟨⟩
  exact holds

theorem many (yields : Yields limit p Q) (times : Nat) :
    Yields limit (Scan.many p times) fun as => ∀ a ∈ as, Q a := by
  induction times with
  | zero => exact .pure [] (List.forall_mem_nil _)
  | succ times ih =>
    refine yields.optional.bind fun result holds => ?_
    cases result with
    | none => exact .pure [] (List.forall_mem_nil _)
    | some a =>
      exact ih.bind fun as others =>
        .pure (a :: as) (List.forall_mem_cons.mpr ⟨holds a rfl, others⟩)

theorem all (yields : Yields limit p Q) : Yields limit (Scan.all p) fun as => ∀ a ∈ as, Q a :=
  fun c => yields.many c.rest.length c

theorem longest (alternatives : List (Scan α)) (yields : ∀ p ∈ alternatives, Yields limit p Q) :
    Yields limit (Scan.longest alternatives) Q := by
  intro c a c' short found
  obtain ⟨p, mem, here⟩ := exists_of_longest alternatives c c' a found
  exact yields p mem c a c' short here

end Yields

/-! ## Numbers -/

theorem yields_digits (radix : Radix) :
    Yields limit (someOf radix.isDigit) fun digits => digits.length ≤ limit := by
  intro c digits c' short found
  obtain ⟨leads, _⟩ := reads_someOf _ (isPlain_of_isDigit radix) c digits c' found
  rw [someOf_eq] at found
  split at found
  · cases found
  · obtain ⟨rfl, rfl⟩ := Prod.mk.inj (Option.some.inj found)
    refine ⟨short.of_leads leads, short _ (List.takeWhile_prefix _).isInfix fun x mem => ?_⟩
    have isDigit : radix.isDigit x := List.mem_takeWhile_imp mem
    exact isNameChar_of_isHexDigit (isHexDigit_of_isDigit isDigit)

theorem yields_char (p : Char → Bool) : Yields limit (char p) fun _ => True := by
  intro c x c' short found
  obtain ⟨rest, ahead, _, rfl⟩ := (char_eq_some_iff p c c' x).mp found
  exact ⟨short.of_leads (leads_move c [x] rest ahead), trivial⟩

theorem yields_marked (mark : Char) (radix : Radix) :
    Yields limit (marked mark radix) fun literal => literal.digits.length ≤ limit := by
  refine (Yields.of_reads reads_separators).bind fun _ _ => ?_
  refine (yields_char _).bind fun _ _ => (yields_char _).bind fun _ _ => ?_
  exact (yields_digits radix).bind fun digits short => .pure _ short

theorem yields_number : Yields limit number fun literal => literal.digits.length ≤ limit := by
  refine .orElse (yields_marked 'x' .hexadecimal) (.orElse (yields_marked 'b' .binary) ?_)
  refine (Yields.of_reads reads_separators).bind fun _ _ => ?_
  exact (yields_digits .decimal).bind fun digits short => .pure _ short

theorem yields_target :
    Yields limit target fun target =>
      ∀ literal ∈ target.literals, literal.digits.length ≤ limit := by
  refine .orElse (.map ?_) (.map ?_)
  · exact yields_number.mono fun literal short => List.forall_mem_singleton.mpr short
  · exact (Yields.of_reads reads_name).mono fun name _ => List.forall_mem_nil _

theorem yields_afterComma {α : Type} {p : Scan α} {Q : α → Prop} (yields : Yields limit p Q) :
    Yields limit (afterComma p) Q :=
  (Yields.of_reads (reads_symbol ',' (by decide))).bind fun _ _ => yields

end Scan

/-! ## Commands -/

/-- Whether `Q` holds of what a builder makes, as long as `ok` holds of the numbers it is given. -/
def Makes {α : Type} (ok : Literal → Prop) (Q : α → Prop) : (ps : List Piece) → Builder α ps → Prop
  | [], a => Q a
  | .register :: ps, build | .optionalRegister :: ps, build => ∀ x, Makes ok Q ps (build x)
  | .number :: ps, build => ∀ literal, ok literal → Makes ok Q ps (build literal)
  | .target :: ps, build =>
    ∀ target : Target, (∀ literal ∈ target.literals, ok literal) → Makes ok Q ps (build target)
  | .numbers :: ps, build =>
    ∀ literals : List Literal, (∀ literal ∈ literals, ok literal) → Makes ok Q ps (build literals)
  | .word _ :: ps, build | .comma :: ps, build | .memory :: ps, build
  | .registerZero :: ps, build => Makes ok Q ps build

/-- The numbers of a command are those that its form was given. -/
theorem makes_forms (ok : Literal → Prop) :
    ∀ f ∈ Form.all, Makes ok (fun command => ∀ literal ∈ command.literals, ok literal)
      f.pieces f.build := by
  simp [Form.all, Form.plain, Form.withTarget, Form.withRegister, Form.withRegisters,
    Form.withNumber, Form.withOptional, Form.into, Form.outOf, Makes, Command.literals]

namespace Scan

theorem yields_pieces {α : Type} {Q : α → Prop} (ps : List Piece) (build : Builder α ps)
    (plain : ∀ p ∈ ps, ∀ x ∈ p.characters, isDelimiter x = false)
    (makes : Makes (fun literal => literal.digits.length ≤ limit) Q ps build) :
    Yields limit (pieces ps build) Q := by
  induction ps with
  | nil => exact .pure build makes
  | cons p ps ih =>
    obtain ⟨first, others⟩ := List.forall_mem_cons.mp plain
    cases p with
    | word text =>
      exact (Yields.of_reads (reads_keyword text first)).bind fun _ _ => ih build others makes
    | comma =>
      exact (Yields.of_reads (reads_symbol ',' (by decide))).bind fun _ _ => ih build others makes
    | memory => exact (Yields.of_reads reads_bracketedIndex).bind fun _ _ => ih build others makes
    | registerZero =>
      exact (Yields.of_reads reads_registerZero).bind fun _ _ => ih build others makes
    | register =>
      exact (Yields.of_reads reads_register).bind fun x _ => ih (build x) others (makes x)
    | optionalRegister =>
      refine (yields_afterComma (Yields.of_reads reads_register)).optional.bind fun result _ => ?_
      exact ih _ others (makes _)
    | number =>
      exact yields_number.bind fun literal short => ih (build literal) others (makes literal short)
    | target =>
      exact yields_target.bind fun target short => ih (build target) others (makes target short)
    | numbers =>
      refine yields_number.bind fun first short => ?_
      refine (yields_afterComma yields_number).all.bind fun more shortMore => ?_
      exact ih _ others (makes _ (List.forall_mem_cons.mpr ⟨short, shortMore⟩))

theorem yields_command :
    Yields limit command fun command =>
      ∀ literal ∈ command.literals, literal.digits.length ≤ limit := by
  refine .longest _ (List.forall_mem_map.mpr fun f mem => ?_)
  exact yields_pieces f.pieces f.build (plain_forms f mem) (makes_forms _ f mem)

end Scan

/-! ## Items -/

/-- Whether no number of an item has more digits than `limit`. -/
def HasShort (limit : Nat) (item : Item) : Prop :=
  ∀ literal ∈ item.literals, literal.digits.length ≤ limit

namespace Scan

theorem yields_statement :
    Yields limit statement fun items => ∀ item ∈ items, HasShort limit item := by
  refine (Yields.of_reads reads_label).optional.bind fun label _ => ?_
  refine (Yields.of_reads reads_comment).optional.bind fun _ _ => ?_
  refine yields_command.bind fun command short => ?_
  refine (Yields.of_reads reads_comments).bind fun _ _ => ?_
  refine (Yields.of_reads reads_separators).bind fun _ _ => .pure _ ?_
  rw [List.forall_mem_append, List.forall_mem_singleton]
  refine ⟨?_, short⟩
  cases label with
  | none => exact List.forall_mem_nil _
  | some name => exact List.forall_mem_singleton.mpr (List.forall_mem_nil _)

theorem yields_line : Yields limit line fun _ => True :=
  fun c text c' short found => ⟨short.of_leads (line_passes c c' text found).1, trivial⟩

theorem yields_stretch : Yields limit stretch fun items => ∀ item ∈ items, HasShort limit item := by
  refine .longest _ ?_
  rw [List.forall_mem_cons, List.forall_mem_cons, List.forall_mem_cons, List.forall_mem_singleton]
  refine ⟨yields_statement, ?_, ?_, ?_⟩
  · exact (Yields.of_reads reads_label).bind fun name _ =>
      .pure _ (List.forall_mem_singleton.mpr (List.forall_mem_nil _))
  · exact (Yields.of_reads reads_comment).bind fun _ _ => .pure _ (List.forall_mem_nil _)
  · exact yields_line.bind fun text _ =>
      .pure _ (List.forall_mem_singleton.mpr (List.forall_mem_nil _))

theorem hasShort_of_stretches (times : Nat) (c : Cursor) (short : RunsWithin limit c.rest) :
    ∀ item ∈ stretches times c, HasShort limit item := by
  induction times generalizing c with
  | zero => exact List.forall_mem_nil _
  | succ times ih =>
    rw [stretches]
    cases found : stretch c with
    | none => exact List.forall_mem_nil _
    | some result =>
      obtain ⟨items, c'⟩ := result
      obtain ⟨shortThen, holds⟩ := yields_stretch c items c' short found
      exact List.forall_mem_append.mpr ⟨holds, ih c' shortThen⟩

end Scan

/-- No number of a text has more digits than its longest run has characters. -/
theorem hasShort_of_itemsOf {text : String} (short : RunsWithin limit text.toList) :
    ∀ item ∈ itemsOf text, HasShort limit item :=
  Scan.hasShort_of_stretches _ _ short.expand

end ChipEight.Assembly
