import ChipEight.Proofs.Settings
import ChipEight.Proofs.Toml.Shown

/-!
# Valid documents

A document makes settings exactly if what there is in it for each setting is of the right kind
(`Valid`), and then the settings are what stands in it and defaults for the rest (`Reads`). This is
`validation_exact`. It takes for granted that there are tables where there are to be tables and that
no integer has thousands of digits, so that a message about a value can show all integers in it. What
is left is the depth of the value: where values lie too deep in each other, the message cannot be
made, and the error is another than that of the configuration.
-/

namespace ChipEight.Settings

open Toml (Value)

/-! ## Valid documents -/

/-- The text of a value is a hexadecimal digit, as people write numerals. -/
def IsDigit (v : Value) : Prop :=
  ∃ n, Text.Numeral.hexadecimal? v.plain = some n ∧ 0 ≤ n ∧ n < 16

/-- What there is for a setting in a document is of the kind that the setting is of. -/
structure Valid (document : List (String × Value)) : Prop where
  scale : ∀ v, valueAt? document "display" "scale" = some v → IsPositive v
  foreground : ∀ v, valueAt? document "display" "foreground" = some v → IsColour v
  background : ∀ v, valueAt? document "display" "background" = some v → IsColour v
  cyclesPerFrame : ∀ v, valueAt? document "cpu" "cycles_per_frame" = some v → IsPositive v
  frameRate : ∀ v, valueAt? document "cpu" "frame_rate" = some v → IsPositive v
  keymap : ∀ entry ∈ entriesOf document "keymap", IsDigit entry.2

/-- The requirement is the first that a document does not meet. -/
def FirstMissed (document : List (String × Value)) (r : Requirement) : Prop :=
  ∃ before after, requirements document = before ++ r :: after ∧
    (∀ q ∈ before, q.IsMet document) ∧ ¬ r.IsMet document

/-- The value that a message shows if a requirement is not met. -/
def Requirement.shown? (document : List (String × Value)) : Requirement → Option Value
  | .table _ _ | .positive _ _ => none
  | .colour parent name => valueAt? document parent name
  | .key v => some v

/-- The value that a message would have to show is too deep for that. -/
def Requirement.IsTooDeep (document : List (String × Value)) (r : Requirement) : Prop :=
  ∃ v, r.shown? document = some v ∧ Value.maxShown < v.depth

variable {document : List (String × Value)}

theorem mem_of_lookup {entries : List (String × Value)} {name : String} {v : Value}
    (found : entries.lookup name = some v) : (name, v) ∈ entries := by
  obtain ⟨before, after, rfl, -⟩ := List.lookup_eq_some_iff.mp found
  exact List.mem_append_right before List.mem_cons_self

theorem integers_of_entry {name : String} {entry : String × Value}
    (mem : entry ∈ entriesOf document name) {n : Int} (inside : n ∈ entry.2.integers) :
    n ∈ (Value.table document).integers := by
  rw [entriesOf] at mem
  split at mem
  · next entries found =>
    rw [Value.integers, Value.entriesIntegers_eq]
    refine List.mem_flatMap_of_mem (mem_of_lookup found) ?_
    rw [Value.integers, Value.entriesIntegers_eq]
    exact List.mem_flatMap_of_mem mem inside
  · cases mem

theorem key_mem_requirements {entry : String × Value} (given : entry ∈ entriesOf document "keymap") :
    .key entry.2 ∈ requirements document :=
  List.mem_append_right _ (List.mem_map_of_mem given)

/-- What a value is shown for stands in a table of the document. -/
theorem exists_entry_of_shown? {r : Requirement} {v : Value} (listed : r ∈ requirements document)
    (shown : r.shown? document = some v) :
    ∃ name, ∃ entry ∈ entriesOf document name, entry.2 = v := by
  obtain listed | listed := List.mem_append.mp listed
  · cases r with
    | table name use | positive parent name => cases shown
    | colour parent name => exact ⟨parent, _, mem_of_lookup shown, rfl⟩
    | key v' => simp at listed
  · obtain ⟨entry, given, rfl⟩ := List.mem_map.mp listed
    exact ⟨"keymap", entry, given, Option.some.inj shown⟩

section

variable (short : ∀ n ∈ (Value.table document).integers, Decimal.isWritable n)
include short

theorem obstacle?_of_entry {name : String} {entry : String × Value}
    (mem : entry ∈ entriesOf document name) :
    entry.2.obstacle? = if entry.2.depth ≤ Value.maxShown then none else some .tooDeep :=
  Value.obstacleIn?_eq Value.maxShown entry.2 fun n inside => short n (integers_of_entry mem inside)

/-- That a value can be shown is no requirement of its own where integers are short. -/
theorem namesKey_iff {entry : String × Value} (mem : entry ∈ entriesOf document "keymap") :
    NamesKey entry.2 ↔ IsDigit entry.2 := by
  refine ⟨And.right, fun digit => ⟨?_, digit⟩⟩
  rw [Value.isWritable, obstacle?_of_entry short mem]
  split
  · rfl
  · next deep =>
    obtain ⟨n, read, -⟩ := digit
    rw [Value.hexadecimal?_eq_none_of_depth (Nat.lt_of_not_le deep)] at read
    cases read

/-- An error whose message shows a value is about the configuration, unless the value is too deep. -/
theorem error_about {r : Requirement} {v : Value} {e : Error} (listed : r ∈ requirements document)
    (shown : r.shown? document = some v) (own : e.isOwn) :
    ((Error.about v e).isOwn ∨ Error.about v e = .tooDeepToShow) ∧
      ((Error.about v e).isOwn ↔ ¬ r.IsTooDeep document) := by
  obtain ⟨name, entry, given, rfl⟩ := exists_entry_of_shown? listed shown
  rw [Error.about, obstacle?_of_entry short given]
  split
  · next shallow =>
    refine ⟨.inl own, iff_of_true own ?_⟩
    rintro ⟨v, shown', deep⟩
    obtain rfl := Option.some.inj (shown.symm.trans shown')
    omega
  · next deep =>
    refine ⟨.inr rfl, iff_of_false Bool.false_ne_true ?_⟩
    exact not_not_intro ⟨_, shown, Nat.lt_of_not_le deep⟩

variable (tables : ∀ name ∈ ["display", "cpu", "keymap"], ∀ v, document.lookup name = some v →
  IsTable v)
include tables

theorem met_iff_valid : (∀ r ∈ requirements document, r.IsMet document) ↔ Valid document := by
  constructor
  · intro met
    exact {
      scale := met (.positive "display" "scale") (by simp [requirements])
      foreground := met (.colour "display" "foreground") (by simp [requirements])
      background := met (.colour "display" "background") (by simp [requirements])
      cyclesPerFrame := met (.positive "cpu" "cycles_per_frame") (by simp [requirements])
      frameRate := met (.positive "cpu" "frame_rate") (by simp [requirements])
      keymap := fun entry given => (namesKey_iff short given).mp
        (met (.key entry.2) (key_mem_requirements given)) }
  · intro valid r mem
    obtain mem | mem := List.mem_append.mp mem
    · simp only [List.mem_cons, List.not_mem_nil, or_false] at mem
      obtain rfl | rfl | rfl | rfl | rfl | rfl | rfl | rfl := mem
      · exact tables "display" (by decide)
      · exact valid.scale
      · exact valid.foreground
      · exact valid.background
      · exact tables "cpu" (by decide)
      · exact valid.cyclesPerFrame
      · exact valid.frameRate
      · exact tables "keymap" (by decide)
    · obtain ⟨entry, given, rfl⟩ := List.mem_map.mp mem
      exact (namesKey_iff short given).mpr (valid.keymap entry given)

/-- The error of a requirement that is not met tells that the configuration is at fault, unless the
    value that it has to show is too deep. -/
theorem error_of_refuses {r : Requirement} {e : Error} (listed : r ∈ requirements document)
    (missed : ¬ r.IsMet document) (refuses : r.Refuses document e) :
    (e.isOwn ∨ e = .tooDeepToShow) ∧ (e.isOwn ↔ ¬ r.IsTooDeep document) := by
  cases r with
  | table name use =>
    have known : name ∈ ["display", "cpu", "keymap"] := by
      obtain listed | listed := List.mem_append.mp listed
      · simp at listed
        obtain ⟨rfl, -⟩ | ⟨rfl, -⟩ | ⟨rfl, -⟩ := listed <;> decide
      · obtain ⟨entry, -, same⟩ := List.mem_map.mp listed
        cases same
    exact absurd (tables name known) missed
  | positive parent name =>
    obtain rfl : e = .notPositive name := refuses
    refine ⟨.inl rfl, iff_of_true rfl ?_⟩
    rintro ⟨v, shown, -⟩
    cases shown
  | colour parent name =>
    obtain ⟨v, found, rfl⟩ := refuses
    exact error_about short listed found rfl
  | key v =>
    obtain rfl : e = _ := refuses
    exact error_about short listed rfl rfl

end

/-- A document with tables where there are to be tables makes settings exactly if it is valid, and
    then they are what stands in it. Otherwise the error tells that the configuration is at fault,
    unless the value that it has to show is too deep. -/
theorem validation_exact (text : String) (document : List (String × Value))
    (parsed : Toml.parse text = .ok document)
    (tables : ∀ name ∈ ["display", "cpu", "keymap"], ∀ v, document.lookup name = some v → IsTable v)
    (bounded : ∀ n ∈ (Value.table document).integers, n.natAbs < Decimal.tenTo 4000) :
    ((∃ settings, parse text = .ok settings) ↔ Valid document) ∧
      (∀ settings, parse text = .ok settings → Reads document settings) ∧
      ∀ e, parse text = .error e →
        (e.isOwn ∨ e = .tooDeepToShow) ∧
          (e.isOwn ↔ ¬ ∃ r, FirstMissed document r ∧ r.IsTooDeep document) := by
  have short : ∀ n ∈ (Value.table document).integers, Decimal.isWritable n :=
    fun n inside => Decimal.isWritable_of_lt (bounded n inside) (by decide)
  have made : parse text = ofDocument document := by rw [parse, parsed]
  rw [made]
  cases checks_ofDocument document with
  | met all answers reads =>
    rw [answers]
    refine ⟨iff_of_true ⟨_, rfl⟩ ((met_iff_valid short tables).mp all), fun settings same => ?_,
      fun e failed => by cases failed⟩
    exact Except.ok.inj same ▸ reads
  | @unmet before r after e split met missed refuses fails =>
    rw [fails]
    have listed : r ∈ requirements document := split ▸ List.mem_append_right before List.mem_cons_self
    have first : FirstMissed document r := ⟨before, after, split, met, missed⟩
    refine ⟨iff_of_false ?_ fun valid => ?_, fun settings answered => ?_, fun e' same => ?_⟩
    · rintro ⟨settings, answered⟩
      cases answered
    · exact missed ((met_iff_valid short tables).mpr valid r listed)
    · cases answered
    · obtain rfl := Except.error.inj same
      obtain ⟨kinds, told⟩ := error_of_refuses short tables listed missed refuses
      refine ⟨kinds, told.trans (not_congr ⟨fun deep => ⟨r, first, deep⟩, ?_⟩)⟩
      rintro ⟨r', ⟨before', after', split', met', missed'⟩, deep⟩
      exact eq_of_first_missed (split.symm.trans split') met missed met' missed' ▸ deep

/-- Two host keys are one in lower case, and the later entry counts. -/
theorem validation_exact_later :
    let text := "[keymap]\nQ = 1\nq = \"f\"\n"
    let document := [("keymap", Value.table [("Q", .integer 1), ("q", .text "f")])]
    Toml.parse text = .ok document ∧
      (∀ name ∈ ["display", "cpu", "keymap"], ∀ v, document.lookup name = some v → IsTable v) ∧
      (∀ n ∈ (Value.table document).integers, n.natAbs < Decimal.tenTo 4000) ∧
      ∃ settings, parse text = .ok settings ∧ settings.scale = 15 ∧
        settings.keymap.lookup "q" = some 0xF ∧ settings.keymap.lookup "1" = none := by
  intro text document
  have parsed : Toml.parse text = .ok document := by cbv
  have tables : ∀ name ∈ ["display", "cpu", "keymap"], ∀ v, document.lookup name = some v →
      IsTable v := by
    simp [document, List.lookup, IsTable]
  have bounded : ∀ n ∈ (Value.table document).integers, n.natAbs < Decimal.tenTo 4000 := by
    have small : Decimal.tenTo 1 ≤ Decimal.tenTo 4000 := Decimal.tenTo_mono (by decide)
    have one : ∀ n ∈ (Value.table document).integers, n.natAbs < Decimal.tenTo 1 := by decide
    exact fun n inside => Nat.lt_of_lt_of_le (one n inside) small
  have first : IsDigit (.integer 1) := ⟨1, by cbv, by decide, by decide⟩
  have later : IsDigit (.text "f") := ⟨15, by cbv, by decide, by decide⟩
  have valid : Valid document := {
    scale := by rintro v ⟨⟩
    foreground := by rintro v ⟨⟩
    background := by rintro v ⟨⟩
    cyclesPerFrame := by rintro v ⟨⟩
    frameRate := by rintro v ⟨⟩
    keymap := List.forall_mem_cons.mpr ⟨first, List.forall_mem_singleton.mpr later⟩ }
  obtain ⟨made, reads, -⟩ := validation_exact text document parsed tables bounded
  obtain ⟨settings, answers⟩ := made.mpr valid
  have reads := reads settings answers
  have scale : (15 : Int) = settings.scale := Value.integer.inj reads.scale
  have maps : Maps (entriesOf document "keymap") [] settings.keymap := reads.keymap
  have last : lastValue? (entriesOf document "keymap") "q" = some (.text "f") := by cbv
  have none : lastValue? (entriesOf document "keymap") "1" = none := by cbv
  obtain ⟨key, mapped, isKey⟩ := maps.mapped "q" (.text "f") last
  have isF : Text.Numeral.hexadecimal? (Value.plain (.text "f")) = some 15 := by cbv
  have number : (key.val : Int) = 15 := Option.some.inj (isKey.symm.trans isF)
  obtain rfl : key = 0xF := Fin.ext (by omega)
  exact ⟨parsed, tables, bounded, settings, answers, by omega, mapped, maps.kept "1" none⟩

end ChipEight.Settings
