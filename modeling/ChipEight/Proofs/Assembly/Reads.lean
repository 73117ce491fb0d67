import ChipEight.Assembly.Cursor
import ChipEight.Proofs.Assembly.BareText
import Mathlib.Data.List.TakeDrop
import Mathlib.Data.List.TakeWhile

/-!
# What scans pass over

Whatever a scan passes over is either spelled by what it answers or is a comment, a blank or a line
end: `Scan.Reads` is that invariant, with one rule for each way to combine scans.
-/

namespace ChipEight.Assembly

/-! ## Scans -/

namespace Cursor

theorem move_rest (c : Cursor) (taken rest : List Char) : (c.move taken rest).rest = rest := rfl

theorem move_nil (c : Cursor) : c.move [] c.rest = c := rfl

theorem move_move (c : Cursor) (taken more rest rest' : List Char) :
    (c.move taken rest).move more rest' = c.move (taken ++ more) rest' := by
  rw [move, move, move, List.length_append, List.getLast?_append, Nat.add_assoc, Option.or_assoc]

end Cursor

/-- Whether a cursor comes to another one by passing over text. -/
def Cursor.Leads (c c' : Cursor) : Prop :=
  ∃ taken, c.rest = taken ++ c'.rest ∧ c'.position = c.position + taken.length

namespace Cursor.Leads

variable {c c' c'' : Cursor}

theorem refl (c : Cursor) : c.Leads c := ⟨[], rfl, rfl⟩

theorem trans (first : c.Leads c') (second : c'.Leads c'') : c.Leads c'' := by
  obtain ⟨taken, ahead, position⟩ := first
  obtain ⟨more, further, positionThen⟩ := second
  refine ⟨taken ++ more, ?_, ?_⟩
  · rw [ahead, further, List.append_assoc]
  · rw [positionThen, position, List.length_append, Nat.add_assoc]

theorem length_le (leads : c.Leads c') : c'.rest.length ≤ c.rest.length := by
  obtain ⟨taken, ahead, _⟩ := leads
  rw [ahead, List.length_append]
  exact Nat.le_add_left _ _

end Cursor.Leads

namespace Scan

variable {α β : Type}

theorem bind_eq_some_iff (p : Scan α) (next : α → Scan β) (c c'' : Cursor) (b : β) :
    (p >>= next) c = some (b, c'') ↔ ∃ a c', p c = some (a, c') ∧ next a c' = some (b, c'') := by
  change (p c).bind (fun (a, c') => next a c') = some (b, c'') ↔ _
  rw [Option.bind_eq_some_iff]
  constructor
  · rintro ⟨⟨a, c'⟩, first, second⟩
    exact ⟨a, c', first, second⟩
  · rintro ⟨a, c', first, second⟩
    exact ⟨(a, c'), first, second⟩

theorem bind_of_eq_some {p : Scan α} (next : α → Scan β) {c c' : Cursor} {a : α}
    (found : p c = some (a, c')) :
    (p >>= next) c = next a c' := by
  change (p c).bind (fun (a, c') => next a c') = _
  rw [found]
  rfl

theorem bind_of_eq_none {p : Scan α} (next : α → Scan β) {c : Cursor} (missing : p c = none) :
    (p >>= next) c = none := by
  change (p c).bind (fun (a, c') => next a c') = _
  rw [missing]
  rfl

theorem bind_of_eq {p q : Scan α} (next : α → Scan β) {c c' : Cursor} (same : p c = q c') :
    (p >>= next) c = (q >>= next) c' := by
  change (p c).bind (fun (a, c') => next a c') = (q c').bind (fun (a, c') => next a c')
  rw [same]

theorem span_eq (p : Char → Bool) (c : Cursor) :
    span p c = some (c.rest.takeWhile p, c.move (c.rest.takeWhile p) (c.rest.dropWhile p)) := by
  rw [span, List.span_eq_takeWhile_dropWhile]

theorem separators_eq (c : Cursor) :
    separators c = some ((), c.move (c.rest.takeWhile isSeparator)
    (c.rest.dropWhile isSeparator)) := by
  rw [separators, bind_of_eq_some _ (span_eq isSeparator c)]
  rfl

theorem leads_move (c : Cursor) (taken rest : List Char) (ahead : c.rest = taken ++ rest) :
    c.Leads (c.move taken rest) := ⟨taken, ahead, rfl⟩

theorem someOf_eq (p : Char → Bool) (c : Cursor) :
    someOf p c =
      if (c.rest.takeWhile p).isEmpty then none
      else some (c.rest.takeWhile p, c.move (c.rest.takeWhile p) (c.rest.dropWhile p)) := by
  rw [someOf, bind_of_eq_some _ (span_eq p c)]
  by_cases nothing : (c.rest.takeWhile p).isEmpty
  · rw [if_pos nothing, if_pos nothing]
    rfl
  · rw [if_neg nothing, if_neg nothing]
    rfl

theorem char_eq_some_iff (p : Char → Bool) (c c' : Cursor) (x : Char) :
    char p c = some (x, c') ↔ ∃ rest, c.rest = x :: rest ∧ p x ∧ c' = c.move [x] rest := by
  rw [char]
  cases c.rest with
  | nil => simp
  | cons first rest =>
    by_cases holds : p first
    · simp only [holds, if_true, Option.some.injEq, Prod.mk.injEq, List.cons.injEq]
      constructor
      · rintro ⟨rfl, rfl⟩
        exact ⟨rest, ⟨rfl, rfl⟩, holds, rfl⟩
      · rintro ⟨_, ⟨rfl, rfl⟩, _, rfl⟩
        exact ⟨rfl, rfl⟩
    · simp only [holds, Bool.false_eq_true, if_false, reduceCtorEq, false_iff]
      rintro ⟨_, same, holdsX, _⟩
      obtain ⟨rfl, _⟩ := List.cons.inj same
      exact holds holdsX

/-- Whether all that a scan passes over is spelled as `P` says, comments and blanks apart. -/
def Reads (p : Scan α) (P : α → List Char → Prop) : Prop :=
  ∀ c a c', p c = some (a, c') →
    c.Leads c' ∧ ∃ spelled, P a spelled ∧ bare c.rest = spelled ++ bare c'.rest

namespace Reads

variable {p q : Scan α} {P R : α → List Char → Prop}

theorem mono (reads : Reads p P) (weaker : ∀ a spelled, P a spelled → R a spelled) : Reads p R := by
  intro c a c' found
  obtain ⟨leads, spelled, holds, same⟩ := reads c a c' found
  exact ⟨leads, spelled, weaker a spelled holds, same⟩

theorem pure (a : α) (holds : P a []) : Reads (Pure.pure a) P := by
  intro c b c' found
  obtain ⟨rfl, rfl⟩ := Prod.mk.inj (Option.some.inj found)
  exact ⟨.refl c, [], holds, rfl⟩

/-- One scan and then another: what the first spelled stands in front of what the second spells. -/
theorem bind {next : α → Scan β} {Q : β → List Char → Prop} (first : Reads p P)
    (second : ∀ a spelled, P a spelled → Reads (next a) fun b more => Q b (spelled ++ more)) :
    Reads (p >>= next) Q := by
  intro c b c'' found
  obtain ⟨a, c', foundFirst, foundSecond⟩ := (bind_eq_some_iff p next c c'' b).mp found
  obtain ⟨leads, spelled, holds, same⟩ := first c a c' foundFirst
  obtain ⟨leadsThen, more, holdsThen, sameThen⟩ := second a spelled holds c' b c'' foundSecond
  refine ⟨leads.trans leadsThen, spelled ++ more, holdsThen, ?_⟩
  -- What is left behind the first scan is what is ahead of the second.
  rw [same, sameThen, List.append_assoc]

/-- One scan and then another, where the first spells nothing. -/
theorem silent_bind {next : α → Scan β} {Q : β → List Char → Prop}
    (first : Reads p fun _ spelled => spelled = []) (second : ∀ a, Reads (next a) Q) :
    Reads (p >>= next) Q := by
  refine first.bind fun a spelled nothing => ?_
  subst nothing
  exact second a

theorem orElse (first : Reads p P) (second : Reads q P) : Reads (p <|> q) P := by
  intro c a c' found
  change (p c <|> q c) = some (a, c') at found
  cases foundFirst : p c with
  | none =>
    rw [foundFirst] at found
    exact second c a c' found
  | some result =>
    rw [foundFirst] at found
    obtain rfl := Option.some.inj found
    exact first c a c' foundFirst

theorem map {f : α → β} {Q : β → List Char → Prop}
    (reads : Reads p fun a spelled => Q (f a) spelled) :
    Reads (f <$> p) Q := by
  have same : f <$> p = p >>= fun a => Pure.pure (f a) := rfl
  rw [same]
  refine reads.bind fun a spelled holds => .pure (f a) ?_
  rwa [List.append_nil]

theorem optional (reads : Reads p P) :
    Reads (optional p) fun result spelled =>
      match result with
      | some a => P a spelled
      | none => spelled = [] :=
  orElse (map reads) (.pure none rfl)

theorem many {Q : List α → List Char → Prop} (reads : Reads p P) (nil : Q [] [])
    (cons : ∀ a as spelled more, P a spelled → Q as more → Q (a :: as) (spelled ++ more))
    (limit : Nat) :
    Reads (Scan.many p limit) Q := by
  induction limit with
  | zero => exact .pure [] nil
  | succ limit ih =>
    refine reads.optional.bind fun result spelled holds => ?_
    cases result with
    | none =>
      subst holds
      exact .pure [] nil
    | some a =>
      refine ih.bind fun as more holdsMore => .pure (a :: as) ?_
      rw [List.append_nil]
      exact cons a as spelled more holds holdsMore

theorem all {Q : List α → List Char → Prop} (reads : Reads p P) (nil : Q [] [])
    (cons : ∀ a as spelled more, P a spelled → Q as more → Q (a :: as) (spelled ++ more)) :
    Reads (Scan.all p) Q :=
  fun c => reads.many nil cons c.rest.length c

end Reads

/-! ## Alternatives -/

theorem farther_eq_none_iff (a b : Option (α × Cursor)) :
    farther a b = none ↔ a = none ∧ b = none := by
  cases a with
  | none => simp [farther]
  | some a =>
    cases b with
    | none => simp [farther]
    | some b =>
      simp only [farther]
      split <;> simp

theorem farther_eq (a b : Option (α × Cursor)) : farther a b = a ∨ farther a b = b := by
  cases a with
  | none => exact .inr rfl
  | some a =>
    cases b with
    | none => exact .inl rfl
    | some b =>
      simp only [farther]
      split
      · exact .inr rfl
      · exact .inl rfl

/-- The longest result is that of an alternative. -/
theorem exists_of_longest (alternatives : List (Scan α)) (c c' : Cursor) (a : α)
    (found : longest alternatives c = some (a, c')) : ∃ p ∈ alternatives, p c = some (a, c') := by
  -- The best result so far is any, so that the induction goes through.
  have fold (best : Option (α × Cursor)) :
      alternatives.foldl (fun best p => farther best (p c)) best = some (a, c') →
        best = some (a, c') ∨ ∃ p ∈ alternatives, p c = some (a, c') := by
    clear found
    induction alternatives generalizing best with
    | nil => exact .inl
    | cons p alternatives ih =>
      intro found
      obtain here | ⟨q, mem, there⟩ := ih _ found
      · obtain same | same := farther_eq best (p c)
        · exact .inl (same ▸ here)
        · exact .inr ⟨p, List.mem_cons_self, same ▸ here⟩
      · exact .inr ⟨q, List.mem_cons_of_mem p mem, there⟩
  obtain impossible | found := fold none found
  · cases impossible
  · exact found

theorem eq_none_of_longest (alternatives : List (Scan α)) (c : Cursor)
    (missing : longest alternatives c = none) :
    ∀ p ∈ alternatives, p c = none := by
  have fold (best : Option (α × Cursor)) :
      alternatives.foldl (fun best p => farther best (p c)) best = none →
        best = none ∧ ∀ p ∈ alternatives, p c = none := by
    clear missing
    induction alternatives generalizing best with
    | nil => exact fun nothing => ⟨nothing, List.forall_mem_nil _⟩
    | cons p alternatives ih =>
      intro missing
      obtain ⟨here, others⟩ := ih _ missing
      obtain ⟨nothing, first⟩ := (farther_eq_none_iff _ _).mp here
      exact ⟨nothing, List.forall_mem_cons.mpr ⟨first, others⟩⟩
  exact (fold none missing).2

theorem Reads.longest {P : α → List Char → Prop} (alternatives : List (Scan α))
    (reads : ∀ p ∈ alternatives, Reads p P) : Reads (Scan.longest alternatives) P := by
  intro c a c' found
  obtain ⟨p, mem, here⟩ := exists_of_longest alternatives c c' a found
  exact reads p mem c a c' here

end Scan

end ChipEight.Assembly
