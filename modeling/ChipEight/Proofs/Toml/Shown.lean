import ChipEight.Text.Numeral
import ChipEight.Toml.Value

/-!
# What can be shown of a value

A message can show a value unless an integer in it is too long or values in it lie too deep in each
other. Where all integers are short, its depth alone decides (`Toml.Value.obstacleIn?_eq`), and a
value that is too deep is an array or a table, the text of which is no numeral
(`Toml.Value.hexadecimal?_eq_none_of_depth`).
-/

namespace ChipEight

/-! ## Integers and depth of values -/

namespace Toml.Value

mutual

/-- The integers in a value. -/
def integers : Value → List Int
  | integer n => [n]
  | array items => itemsIntegers items
  | table entries => entriesIntegers entries
  | _ => []

def itemsIntegers : List Value → List Int
  | [] => []
  | v :: vs => integers v ++ itemsIntegers vs

def entriesIntegers : List (String × Value) → List Int
  | [] => []
  | (_, v) :: es => integers v ++ entriesIntegers es

end

mutual

/-- How many values lie in each other, from a value to the innermost in it. -/
def depth : Value → Nat
  | array items => itemsDepth items + 1
  | table entries => entriesDepth entries + 1
  | _ => 1

def itemsDepth : List Value → Nat
  | [] => 0
  | v :: vs => max (depth v) (itemsDepth vs)

def entriesDepth : List (String × Value) → Nat
  | [] => 0
  | (_, v) :: es => max (depth v) (entriesDepth es)

end

theorem or_tooDeep (room d d' : Nat) :
    (if d ≤ room then none else some Obstacle.tooDeep).or
        (if d' ≤ room then none else some .tooDeep) =
      if max d d' ≤ room then none else some .tooDeep := by
  simp only [Nat.max_le]
  by_cases first : d ≤ room <;> by_cases second : d' ≤ room <;> simp [first, second]

mutual

/-- Where all integers are short, only the depth of a value can be in the way of showing it. -/
theorem obstacleIn?_eq (room : Nat) : ∀ v : Value, (∀ n ∈ v.integers, Decimal.isWritable n) →
    obstacleIn? room v = if v.depth ≤ room then none else some .tooDeep
  | integer n, short => by
    cases room with
    | zero => rfl
    | succ room => simp [obstacleIn?, depth, short n (by simp [integers])]
  | array items, short => by
    cases room with
    | zero => rfl
    | succ room =>
      rw [obstacleIn?, depth, itemsObstacle?_eq room items short]
      simp
  | table entries, short => by
    cases room with
    | zero => rfl
    | succ room =>
      rw [obstacleIn?, depth, entriesObstacle?_eq room entries short]
      simp
  | null, _ | boolean _, _ | float _, _ | text _, _ | date _, _ | time _, _ | dateTime _, _ => by
    cases room with
    | zero => rfl
    | succ room => simp [obstacleIn?, depth]

theorem itemsObstacle?_eq (room : Nat) : ∀ items : List Value,
    (∀ n ∈ itemsIntegers items, Decimal.isWritable n) →
    itemsObstacle? room items = if itemsDepth items ≤ room then none else some .tooDeep
  | [], _ => by simp [itemsObstacle?, itemsDepth]
  | v :: vs, short => by
    obtain ⟨here, later⟩ := List.forall_mem_append.mp short
    rw [itemsObstacle?, itemsDepth, obstacleIn?_eq room v here, itemsObstacle?_eq room vs later,
      or_tooDeep]

theorem entriesObstacle?_eq (room : Nat) : ∀ entries : List (String × Value),
    (∀ n ∈ entriesIntegers entries, Decimal.isWritable n) →
    entriesObstacle? room entries = if entriesDepth entries ≤ room then none else some .tooDeep
  | [], _ => by simp [entriesObstacle?, entriesDepth]
  | (_, v) :: es, short => by
    obtain ⟨here, later⟩ := List.forall_mem_append.mp short
    rw [entriesObstacle?, entriesDepth, obstacleIn?_eq room v here,
      entriesObstacle?_eq room es later, or_tooDeep]

end

theorem entriesIntegers_eq (entries : List (String × Value)) :
    entriesIntegers entries = entries.flatMap fun entry => entry.2.integers := by
  induction entries with
  | nil => rfl
  | cons entry entries ih => rw [entriesIntegers, ih, List.flatMap_cons]

end Toml.Value

/-! ## Texts that are no numerals -/

namespace Text.Numeral

variable {c : Char}

theorem digits?_eq_none (noDigit : digit? c = none) (n : Nat) (rest : List Char) :
    digits? n (c :: rest) = none := by
  match rest with
  | [] => rw [digits?, noDigit, Option.map_none]
  | '_' :: rest => rw [digits?, noDigit, Option.bind_none]
  | c' :: rest =>
    rw [digits?.eq_def]
    split <;> simp_all

theorem decimalDigit?_eq_none (noDigit : digit? c = none) : decimalDigit? c = none := by
  rw [digit?] at noDigit
  split at noDigit
  · cases noDigit
  · split at noDigit
    · cases noDigit
    · exact noDigit

theorem unsigned?_eq_none (noDigit : digit? c = none) (rest : List Char) :
    unsigned? (c :: rest) = none := by
  cases rest with
  | nil => exact digits?_eq_none noDigit 0 []
  | cons x rest =>
    have noZero : ¬ (decimalDigit? c = some 0 ∧ (x = 'x' ∨ x = 'X')) := by
      rw [decimalDigit?_eq_none noDigit]
      rintro ⟨⟨⟩, -⟩
    unfold unsigned?
    dsimp only
    rw [if_neg noZero]
    exact digits?_eq_none noDigit 0 _

theorem exists_trim (solid : isBlank c = false) (rest : List Char) :
    ∃ rest', trim (c :: rest) = c :: rest' := by
  rw [trim, List.dropWhile_cons_of_neg (by simp [solid]), List.reverse_cons, List.dropWhile_append]
  split
  · exact ⟨[], by simp [solid]⟩
  · exact ⟨(rest.reverse.dropWhile isBlank).reverse, by simp⟩

/-- A text that begins with a character that is no digit, no sign and no blank is no numeral. -/
theorem hexadecimal?_eq_none {text : String} {rest : List Char} (starts : text.toList = c :: rest)
    (solid : isBlank c = false) (noDigit : digit? c = none) (noSign : c ≠ '-' ∧ c ≠ '+') :
    hexadecimal? text = none := by
  obtain ⟨rest', trimmed⟩ := exists_trim solid rest
  rw [hexadecimal?, starts, trimmed, signed?.eq_def]
  split
  · next same => exact absurd (List.cons.inj same).1 noSign.1
  · next same => exact absurd (List.cons.inj same).1 noSign.2
  · rw [unsigned?_eq_none noDigit, Option.map_none]

end Text.Numeral

namespace Toml.Value

theorem exists_toList_bracketed (opening closing : String) (parts : List String) :
    ∃ rest, (bracketed opening closing parts).toList = opening.toList ++ rest :=
  ⟨_, by rw [bracketed, String.toList_append, String.toList_append, List.append_assoc]⟩

/-- Only an array or a table can be too deep to be shown, and its text is no numeral. -/
theorem hexadecimal?_eq_none_of_depth {v : Value} (deep : maxShown < v.depth) :
    Text.Numeral.hexadecimal? v.plain = none := by
  cases v with
  | array items =>
    obtain ⟨rest, starts⟩ := exists_toList_bracketed "[" "]" (itemsShown items)
    exact Text.Numeral.hexadecimal?_eq_none starts (by decide) (by decide) (by decide)
  | table entries =>
    obtain ⟨rest, starts⟩ := exists_toList_bracketed "\x7b" "\x7d" (entriesShown entries)
    exact Text.Numeral.hexadecimal?_eq_none starts (by decide) (by decide) (by decide)
  | _ => simp [depth, maxShown] at deep

end Toml.Value

end ChipEight
