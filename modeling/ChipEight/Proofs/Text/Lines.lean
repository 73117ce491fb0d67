import ChipEight.Text.Lines
import Mathlib

/-!
# What line ends are read as

A text is read from the front. A carriage return, with the line feed behind it if there is one, is
read as a line feed, and every other character as itself: so nothing is left of the carriage returns,
and no line end is counted twice.
-/

namespace ChipEight.Text.Lines

/-- Whether a text is read as this one, in which each line end is a line feed. -/
inductive Unified : List Char → List Char → Prop
  | nil : Unified [] []
  | both {text unified : List Char} (others : Unified text unified) :
    Unified ('\r' :: '\n' :: text) ('\n' :: unified)
  | carriageReturn {text unified : List Char} (alone : text.head? ≠ some '\n')
    (others : Unified text unified) : Unified ('\r' :: text) ('\n' :: unified)
  | other {c : Char} {text unified : List Char} (noReturn : c ≠ '\r')
    (others : Unified text unified) : Unified (c :: text) (c :: unified)

variable {text unified unified' : List Char}

theorem Unified.unique (first : Unified text unified) (second : Unified text unified') :
    unified = unified' := by
  induction first generalizing unified' with
  | nil => cases second; rfl
  | both _ ih =>
    cases second with
    | both others => rw [ih others]
    | carriageReturn alone _ => exact absurd rfl alone
    | other noReturn _ => exact absurd rfl noReturn
  | carriageReturn alone _ ih =>
    cases second with
    | both _ => exact absurd rfl alone
    | carriageReturn _ others => rw [ih others]
    | other noReturn _ => exact absurd rfl noReturn
  | other noReturn _ ih =>
    cases second with
    | both _ | carriageReturn _ _ => exact absurd rfl noReturn
    | other _ others => rw [ih others]

theorem exists_unified (before text : List Char) :
    ∃ unified, Unified text unified ∧ unifyOnto before text = unified.reverse ++ before := by
  fun_induction unifyOnto before text with
  | case1 before => exact ⟨[], .nil, rfl⟩
  | case2 before text ih =>
    obtain ⟨unified, others, same⟩ := ih
    exact ⟨'\n' :: unified, .both others, by simp [same]⟩
  | case3 before text alone ih =>
    obtain ⟨unified, others, same⟩ := ih
    refine ⟨'\n' :: unified, .carriageReturn ?_ others, by simp [same]⟩
    rw [ne_eq, List.head?_eq_some_iff]
    rintro ⟨rest, feed⟩
    exact alone rest feed
  | case4 before c text _ noReturn ih =>
    obtain ⟨unified, others, same⟩ := ih
    exact ⟨c :: unified, .other noReturn others, by simp [same]⟩

theorem unified_iff : Unified text unified ↔ unified = unify text := by
  obtain ⟨unified', holds, same⟩ := exists_unified [] text
  have isUnify : unify text = unified' := by simp [unify, same]
  rw [isUnify]
  constructor
  · exact fun first => first.unique holds
  · rintro rfl
    exact holds

end ChipEight.Text.Lines
