import ChipEight.Proofs.Assembly.Agreement
import ChipEight.Proofs.Assembly.NumberLength

/-!
# Every text comes to an end

Wherever a character other than a blank or a line end is ahead, a stretch is read and takes text
away, so every text is read to its end (`Scan.parses_text`). And unless it has very long runs, no
number in it is too long, so whatever is wrong with it is an error about the program
(`assemble_total`).
-/

namespace ChipEight.Assembly

open Reference

/-! ## Progress -/

namespace Scan

/-- Stretch after stretch is read between two places in a text, and at the second one there is
    none. -/
inductive Parses : Cursor → List Item → Cursor → Prop
  | done {c : Cursor} (missing : stretch c = none) : Parses c [] c
  | step {c c' c'' : Cursor} {items more : List Item} (found : stretch c = some (items, c'))
    (rest : Parses c' more c'') : Parses c (items ++ more) c''

theorem isSeparator_of_stretch (c : Cursor) (missing : stretch c = none) :
    ∀ x ∈ c.rest, isSeparator x :=
  List.dropWhile_eq_nil_iff.mp (dropWhile_eq_nil_of_stretch c missing)

theorem Parses.isSeparator {c c' : Cursor} {items : List Item} (parses : Parses c items c') :
    ∀ x ∈ c'.rest, isSeparator x := by
  induction parses with
  | done missing => exact isSeparator_of_stretch _ missing
  | step _ _ ih => exact ih

/-- Stretches may be counted by the characters ahead, since each takes one. -/
theorem parses_stretches (limit : Nat) (c : Cursor) (enough : c.rest.length ≤ limit) :
    ∃ c', Parses c (stretches limit c) c' := by
  induction limit generalizing c with
  | zero =>
    refine ⟨c, .done ?_⟩
    cases found : stretch c with
    | none => rfl
    | some result =>
      have shorter := (stretch_shortens c result.2 result.1 found).2
      omega
  | succ limit ih =>
    rw [stretches]
    cases found : stretch c with
    | none => exact ⟨c, .done found⟩
    | some result =>
      obtain ⟨items, c'⟩ := result
      have shorter := (stretch_shortens c c' items found).2
      obtain ⟨c'', rest⟩ := ih c' (by omega)
      exact ⟨c'', .step found rest⟩

theorem parses_text (text : String) :
    ∃ c, Parses (.start (Text.Tabs.expand text.toList)) (itemsOf text) c :=
  parses_stretches _ _ (Nat.le_refl _)

end Scan

/-! ## Errors -/

theorem isOwn_of_hasShort {item : Item} {e : Error} {l : Listing}
    (short : HasShort safeLength item) (fault : l.fault? item.action = some e) :
    e.isOwn := by
  obtain own | ⟨_, operand, outside, notWritable⟩ := isOwn_of_fault? l item e fault
  · exact own
  · have writable := isWritable_of_literals item
      (fun literal mem => isWritable_of_safe literal (short literal mem)) operand
      (List.mem_of_find?_eq_some outside)
    rw [writable] at notWritable
    cases notWritable

theorem assemble_of_runs (modules : List Module)
    (short : ∀ m ∈ modules, RunsWithin safeLength m.text.toList) :
    (∃ program, assemble modules = .ok program) ∨
      ∃ e, assemble modules = .error e ∧ e.isOwn := by
  have shortItems (m : Module) (mem : m ∈ modules) :
      ∀ item ∈ itemsOf m.text, HasShort safeLength item :=
    hasShort_of_itemsOf (short m mem)
  have reads : List.Forall₂ (fun (m : Module) items => m.items = .ok items) modules
      (modules.map fun m => itemsOf m.text) := by
    rw [List.forall₂_map_right_iff, List.forall₂_same]
    exact fun m mem => items_of_readable m fun item itemMem literal literalMem =>
      isReadable_of_safe literal (shortItems m mem item itemMem literal literalMem)
  cases found : assemble? (modules.map fun m => itemsOf m.text).flatten with
  | some program => exact .inl ⟨program, assemble_of_some modules _ reads program found⟩
  | none =>
    obtain ⟨e, failed, own | ⟨item, mem, before, fault⟩⟩ := assemble_of_none modules _ reads found
    · exact .inr ⟨e, failed, own⟩
    · rw [← List.flatMap_def, List.mem_flatMap] at mem
      obtain ⟨m, mem, itemMem⟩ := mem
      exact .inr ⟨e, failed, isOwn_of_hasShort (shortItems m mem item itemMem) fault⟩

/-- A stretch is read wherever there is something to read, so every text is read up to the blanks
    and line ends behind its last stretch. If no run of letters, digits and underscores is very
    long, then nothing is left that could go wrong but the program. -/
theorem assemble_total :
    (∀ c : Cursor, (∃ x ∈ c.rest, isSeparator x = false) →
      ∃ items c', Scan.stretch c = some (items, c') ∧ c.Leads c' ∧
        c'.rest.length < c.rest.length) ∧
      (∀ text : String, ∃ c,
        Scan.Parses (.start (Text.Tabs.expand text.toList)) (itemsOf text) c ∧
          ∀ x ∈ c.rest, isSeparator x) ∧
      ∀ modules : List Module, (∀ m ∈ modules, RunsWithin 3500 m.text.toList) →
        (∃ program, assemble modules = .ok program) ∨
          ∃ e, assemble modules = .error e ∧ e.isOwn := by
  refine ⟨fun c ⟨x, mem, notSeparator⟩ => ?_, fun text => ?_, assemble_of_runs⟩
  · cases found : Scan.stretch c with
    | none =>
      have separates := Scan.isSeparator_of_stretch c found x mem
      rw [notSeparator] at separates
      cases separates
    | some result => exact ⟨result.1, result.2, rfl, Scan.stretch_shortens c _ _ found⟩
  · obtain ⟨c, parses⟩ := Scan.parses_text text
    exact ⟨c, parses, parses.isSeparator⟩

/-- A number as long as may be, where there is no command that it could belong to. -/
theorem assemble_total_number :
    let text := '0' :: 'x' :: List.replicate 3498 'f'
    (∃ items c', Scan.stretch (.start text) = some (items, c') ∧ c'.rest.length < 3500) ∧
      ((∃ program, assemble [{ text := .ofList text }] = .ok program) ∨
        ∃ e, assemble [{ text := .ofList text }] = .error e ∧ e.isOwn) := by
  intro text
  have length : text.length = 3500 := by
    rw [List.length_cons, List.length_cons, List.length_replicate]
  obtain ⟨progress, _, outcome⟩ := assemble_total
  constructor
  · obtain ⟨items, c', found, _, shorter⟩ := progress (.start text) ⟨'0', List.mem_cons_self, rfl⟩
    exact ⟨items, c', found, Nat.lt_of_lt_of_eq shorter length⟩
  · refine outcome _ (List.forall_mem_singleton.mpr fun run inside _ => ?_)
    rw [String.toList_ofList] at inside
    exact Nat.le_trans inside.length_le (Nat.le_of_eq length)

end ChipEight.Assembly
