import ChipEight.Assembly.Token
import ChipEight.Text.Tabs

/-!
# Bare texts

What is left of a text without its comments, blanks and line ends. Every character of it has to
belong to some item of the text, as comments and blanks belong to none. That tabs are expanded
before a text is read makes no difference.
-/

namespace ChipEight.Assembly

/-- A text without its comments, which reach to the end of their line; `inside` tells whether it
    begins in one. -/
def withoutComments : (inside : Bool) → List Char → List Char
  | _, [] => []
  | true, c :: text =>
    if c = '\n' then c :: withoutComments false text else withoutComments true text
  | false, c :: text =>
    if c = '/' ∧ text.head? = some '/' then withoutComments true text
    else c :: withoutComments false text

/-- What is left of a text without comments, blanks and line ends. -/
def bare (text : List Char) : List Char := (withoutComments false text).filter (!isSeparator ·)

/-- Whether a character is neither a blank nor can begin a comment. -/
def IsPlain (c : Char) : Prop := isSeparator c = false ∧ c ≠ '/'
  deriving Decidable

theorem bare_cons (c : Char) (text : List Char) (plain : IsPlain c) :
    bare (c :: text) = c :: bare text := by
  have noComment : ¬ (c = '/' ∧ text.head? = some '/') := fun comment => plain.2 comment.1
  simp only [bare, withoutComments, if_neg noComment]
  exact List.filter_cons_of_pos (by simp [plain.1])

theorem bare_append (token text : List Char) (plain : ∀ c ∈ token, IsPlain c) :
    bare (token ++ text) = token ++ bare text := by
  induction token with
  | nil => rfl
  | cons c token ih =>
    obtain ⟨first, others⟩ := List.forall_mem_cons.mp plain
    rw [List.cons_append, bare_cons c _ first, ih others, List.cons_append]

theorem ne_slash_of_isSeparator (c : Char) (separates : isSeparator c) : c ≠ '/' := by
  rintro rfl
  exact absurd separates (by decide)

theorem bare_separators_append (gap text : List Char) (separate : ∀ c ∈ gap, isSeparator c) :
    bare (gap ++ text) = bare text := by
  induction gap with
  | nil => rfl
  | cons c gap ih =>
    obtain ⟨first, others⟩ := List.forall_mem_cons.mp separate
    have noComment : ¬ (c = '/' ∧ (gap ++ text).head? = some '/') :=
      fun comment => ne_slash_of_isSeparator c first comment.1
    rw [← ih others, List.cons_append]
    simp only [bare, withoutComments, if_neg noComment]
    exact List.filter_cons_of_neg (by simp [first])

/-- Inside of a comment, nothing counts up to the end of the line. -/
theorem withoutComments_true (text : List Char) :
    withoutComments true text = withoutComments false (text.dropWhile (· != '\n')) := by
  induction text with
  | nil => rfl
  | cons c text ih =>
    by_cases lineEnd : c = '\n'
    · subst lineEnd
      rfl
    · have passed : (c != '\n') = true := bne_iff_ne.mpr lineEnd
      -- The comment goes on behind this character.
      rw [withoutComments, if_neg lineEnd, ih, List.dropWhile_cons, if_pos passed]

theorem bare_comment (text : List Char) :
    bare ('/' :: '/' :: text) = bare (text.dropWhile (· != '\n')) := by
  have inside : withoutComments true ('/' :: text) = withoutComments true text := rfl
  rw [bare, withoutComments, if_pos ⟨rfl, rfl⟩, inside, withoutComments_true]
  rfl

/-! ## Tabs -/

/-- A text with spaces for its tabs, read forwards from a column. -/
def expandFrom : (column : Nat) → List Char → List Char
  | _, [] => []
  | column, c :: text =>
    if c = '\t' then
      let gap := Text.Tabs.stop - column % Text.Tabs.stop
      List.replicate gap ' ' ++ expandFrom (column + gap) text
    else c :: expandFrom (if c = '\n' ∨ c = '\r' then 0 else column + 1) text

theorem foldl_push_eq (text expanded : List Char) (column : Nat) :
    (text.foldl Text.Tabs.push (expanded, column)).1.reverse =
      expanded.reverse ++ expandFrom column text := by
  induction text generalizing expanded column with
  | nil => simp [expandFrom]
  | cons c text ih =>
    rw [List.foldl_cons, expandFrom, Text.Tabs.push]
    by_cases tab : c = '\t'
    · simp [tab, ih]
    · by_cases lineEnd : c = '\n' ∨ c = '\r' <;> simp [tab, lineEnd, ih]

theorem expand_eq (text : List Char) :
    Text.Tabs.expand text = expandFrom 0 text := foldl_push_eq text [] 0

theorem withoutComments_true_spaces (n : Nat) (text : List Char) :
    withoutComments true (List.replicate n ' ' ++ text) = withoutComments true text := by
  induction n with
  | zero => rfl
  | succ n ih => exact ih

theorem withoutComments_false_spaces (n : Nat) (text : List Char) :
    withoutComments false (List.replicate n ' ' ++ text) =
      List.replicate n ' ' ++ withoutComments false text := by
  induction n with
  | zero => rfl
  | succ n ih => exact congrArg (' ' :: ·) ih

theorem head?_expandFrom (column : Nat) (text : List Char) :
    (expandFrom column text).head? = some '/' ↔ text.head? = some '/' := by
  cases text with
  | nil => rfl
  | cons c text =>
    by_cases tab : c = '\t'
    · -- A tab stands for at least one space.
      have gap : ∃ n, Text.Tabs.stop - column % Text.Tabs.stop = n + 1 :=
        ⟨7 - column % 8, by rw [Text.Tabs.stop]; omega⟩
      obtain ⟨n, gap⟩ := gap
      rw [expandFrom, if_pos tab, gap, tab]
      simp [List.replicate_succ]
    · rw [expandFrom, if_neg tab]
      rfl

theorem filter_withoutComments_expandFrom (inside : Bool) (column : Nat) (text : List Char) :
    (withoutComments inside (expandFrom column text)).filter (!isSeparator ·) =
      (withoutComments inside text).filter (!isSeparator ·) := by
  induction text generalizing inside column with
  | nil => rfl
  | cons c text ih =>
    by_cases tab : c = '\t'
    · subst tab
      rw [expandFrom, if_pos rfl]
      -- A tab is a blank like the spaces that it stands for, in a comment or not.
      cases inside with
      | true => exact (congrArg _ (withoutComments_true_spaces _ _)).trans (ih true _)
      | false =>
        rw [withoutComments_false_spaces, List.filter_append, ih false]
        have spaces (n : Nat) : (List.replicate n ' ').filter (!isSeparator ·) = [] := by
          rw [List.filter_replicate]
          rfl
        rw [spaces]
        rfl
    · rw [expandFrom, if_neg tab]
      cases inside with
      | true =>
        simp only [withoutComments]
        by_cases lineEnd : c = '\n'
        · rw [if_pos lineEnd, if_pos lineEnd, List.filter_cons, List.filter_cons, ih]
        · rw [if_neg lineEnd, if_neg lineEnd, ih]
      | false =>
        simp only [withoutComments, head?_expandFrom]
        by_cases comment : c = '/' ∧ text.head? = some '/'
        · rw [if_pos comment, if_pos comment, ih]
        · rw [if_neg comment, if_neg comment, List.filter_cons, List.filter_cons, ih]

/-- Tabs do not matter for what is left of a text. -/
theorem bare_expand (text : List Char) : bare (Text.Tabs.expand text) = bare text := by
  rw [expand_eq]
  exact filter_withoutComments_expandFrom false 0 text

end ChipEight.Assembly
