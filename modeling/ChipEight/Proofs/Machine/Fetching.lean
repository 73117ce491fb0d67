import ChipEight.Proofs.Machine.Calls
import ChipEight.Proofs.Pattern

/-!
# What a run fetches

Some properties of a run hold as long as instructions of some kind are not among those that it
executes. `Machine.Fetches` says of a step that its opcode is of one of some patterns, and
`Machine.Avoids` of a run that it has no such step.
-/

namespace ChipEight.Machine

open Opcode (Matches MatchesOne pattern matches_word)

/-- The next step fetches an opcode of one of the patterns. -/
def Fetches (m : Machine) (patterns : List String) : Prop :=
  ∃ opcode : Nat, fetch m = .ok opcode m ∧ MatchesOne patterns opcode

/-- No step among the calls fetches an opcode of one of the patterns. -/
def Avoids (m : Machine) (patterns : List String) : List Call → Prop
  | [] => True
  | c :: calls => (c = .step → ¬ m.Fetches patterns) ∧ (m.after c).Avoids patterns calls

theorem fetches_iff (m : Machine) (patterns : List String) :
    m.Fetches patterns ↔
      ∃ word, m.memory.readWord m.pc = .ok word ∧ MatchesOne patterns word := by
  simp only [Fetches, fetch_eq_ok_iff]

theorem Fetches.mono {m : Machine} {some all : List String} (h : m.Fetches some)
    (listed : some ⊆ all) : m.Fetches all := by
  obtain ⟨opcode, fetched, pattern, mem, matched⟩ := h
  exact ⟨opcode, fetched, pattern, listed mem, matched⟩

theorem not_fetches {m : Machine} {patterns : List String} {word : Nat}
    (read : m.memory.readWord m.pc = .ok word) (unlisted : ¬ MatchesOne patterns word) :
    ¬ m.Fetches patterns := by
  rintro ⟨opcode, fetched, listed⟩
  obtain rfl := eq_of_fetch fetched read
  exact unlisted listed

theorem avoids_of_no_step {m : Machine} {patterns : List String} {calls : List Call}
    (none : Call.step ∉ calls) : m.Avoids patterns calls := by
  induction calls generalizing m with
  | nil => trivial
  | cons c calls ih =>
    rw [List.mem_cons, not_or] at none
    exact ⟨fun isStep => absurd isStep.symm none.1, ih none.2⟩

theorem fetches_of_current {m : Machine} {i : Instruction} {patterns : List String}
    (found : m.current = .ok i) (listed : pattern i ∈ patterns) : m.Fetches patterns :=
  ⟨i.word, fetch_of_current found, pattern i, listed, matches_word i⟩

/-- A pattern that begins with a digit other than 0 is not of family 0. -/
theorem le_of_matches {pattern : String} {opcode : Nat} (matched : Matches pattern opcode)
    (first : (pattern.toList.head?.bind Opcode.digit?).any (0 < ·)) : 0x1000 ≤ opcode := by
  unfold Matches at matched
  cases letters : pattern.toList with
  | nil => simp [letters] at first
  | cons c letters' =>
    rw [letters, List.head?_cons, Option.bind_some] at first
    rw [letters, Opcode.nibbles, Opcode.fits, Bool.and_eq_true] at matched
    cases digit : Opcode.digit? c with
    | none => simp [digit] at first
    | some n =>
      simp only [digit, Option.any_some, decide_eq_true_eq] at first
      simp only [digit, Option.all_some, beq_iff_eq] at matched
      omega

/-- An opcode outside family 0 is fetched to be performed as the instruction whose pattern it
    matches and whose operands it holds. -/
theorem current_of_matches {m : Machine} {opcode : Nat} {i : Instruction} {p : String}
    (fetched : fetch m = .ok opcode m) (matched : Matches p opcode) (named : pattern i = p)
    (first : (p.toList.head?.bind Opcode.digit?).any (0 < ·))
    (own : Opcode.instruction? i.template opcode = some i) : m.current = .ok i := by
  subst named
  have read := fetch_eq_ok_iff.mp fetched
  have found := Opcode.template?_of_matches (Memory.readWord_eq_ok read).2.2
    (le_of_matches matched first) i matched
  rw [current_of_read read, decoded, Opcode.decode?_of_template found, own]

end ChipEight.Machine
