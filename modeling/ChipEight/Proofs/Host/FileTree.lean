import ChipEight.Host.FileTree
import Mathlib.Tactic.Tauto

/-!
# Reading and writing files

A path leads through one place after another. `follow_outcome` says where it ends or why it does
not get there, and all that reading, writing and making directories do is derived from that. The
last section puts it together: `IsWritable` says at which paths of a tree a file can be written,
and `writeWithDirectories_outcome` that it is written there, and that no file changes elsewhere or
otherwise.
-/

namespace ChipEight.Host

/-! ## Paths -/

namespace Path

/-- The place that the first parts of a path lead to. -/
def through (p : Path) (count : Nat) : Place :=
  (p.parts.take count).foldl Place.into (.start p.anchor)

/-- The place that a path leads to. -/
def place (p : Path) : Place := p.through p.parts.length

/-- Whether a path is within the limits of the system and has no null character. -/
structure Fits (p : Path) : Prop where
  noNull : p.toText.contains '\x00' = false
  length : p.toText.utf8ByteSize ≤ FileTree.maxPathLength
  names : ∀ part ∈ p.parts, part.utf8ByteSize ≤ FileTree.maxNameLength

theorem length_parent (p : Path) : p.parent.parts.length = p.parts.length - 1 :=
  List.length_dropLast

theorem through_parent (p : Path) {i : Nat} (bound : i ≤ p.parts.length - 1) :
    p.parent.through i = p.through i := by
  have taken : p.parts.dropLast.take i = p.parts.take i := by
    rw [List.dropLast_eq_take, List.take_take, Nat.min_eq_left bound]
  simp [through, parent, taken]

/-- The text of the path of a directory begins the texts of those that lie in it. -/
theorem toText_parent (p : Path) :
    p.parent.toText = "." ∨ ∃ rest, p.toText = p.parent.toText ++ rest := by
  obtain ⟨anchor, parts⟩ := p
  obtain rfl | ⟨parts, last, rfl⟩ := parts.eq_nil_or_concat
  · exact .inr ⟨"", String.append_empty.symm⟩
  · rw [List.concat_eq_append]
    by_cases none : parts = []
    · subst none
      cases anchor with
      | here => exact .inl rfl
      | root | doubleRoot => exact .inr ⟨last, by simp [toText, parent, Anchor.toText]⟩
    · refine .inr ⟨"/" ++ last, ?_⟩
      simp [toText, parent, none, String.append_assoc,
        String.intercalate_append_of_ne_nil none (List.cons_ne_nil last [])]

theorem Fits.parent {p : Path} (fits : p.Fits) : p.parent.Fits where
  noNull := by
    obtain point | ⟨rest, text⟩ := p.toText_parent
    · simp [point, String.contains_char_eq]
    · have noNull := fits.noNull
      simp_all [String.contains_char_eq]
  length := by
    obtain point | ⟨rest, text⟩ := p.toText_parent
    · rw [point]
      decide
    · have length := fits.length
      rw [text, String.utf8ByteSize_append] at length
      omega
  names part mem := fits.names part (List.dropLast_subset p.parts mem)

end Path

namespace FileTree

/-! ## Following a path -/

theorem isDirectory_start (t : FileTree) (anchor : Anchor) : t.isDirectory (.start anchor) := by
  cases anchor <;> rfl

/-- Following parts from a directory leads where they say, unless a directory is missing on the way
    or there is something else in its place. -/
theorem follow_outcome (t : FileTree) (p : Place) (inside : t.isDirectory p) (parts : List String) :
    match t.follow p parts with
    | .ok place => place = parts.foldl Place.into p ∧
        (∀ part ∈ parts, part.utf8ByteSize ≤ maxNameLength) ∧
        ∀ i < parts.length, t.isDirectory ((parts.take i).foldl Place.into p)
    | .error .notFound =>
        ∃ i < parts.length, t.isDirectory ((parts.take i).foldl Place.into p) = false
    | .error _ => (∃ part ∈ parts, maxNameLength < part.utf8ByteSize) ∨
        ∃ i < parts.length, t.isDirectory ((parts.take i).foldl Place.into p) = false ∧
          t.file? ((parts.take i).foldl Place.into p) ≠ none := by
  induction parts generalizing p with
  | nil => simp [follow]
  | cons part rest ih =>
    rw [follow]
    by_cases long : maxNameLength < part.utf8ByteSize
    · rw [if_pos long]
      exact .inl ⟨part, List.mem_cons_self, long⟩
    · rw [if_neg long]
      by_cases further : t.isDirectory (p.into part)
      · -- The rest is followed from there, and its places are those behind the first one.
        rw [further, Bool.true_or, if_pos rfl]
        have outcome := ih (p.into part) further
        cases followed : t.follow (p.into part) rest with
        | ok place =>
          rw [followed] at outcome
          obtain ⟨rfl, short, through⟩ := outcome
          refine ⟨rfl, List.forall_mem_cons.mpr ⟨Nat.le_of_not_lt long, short⟩, fun i bound => ?_⟩
          cases i with
          | zero => exact inside
          | succ i => exact through i (Nat.lt_of_succ_lt_succ bound)
        | error cause =>
          rw [followed] at outcome
          cases cause with
          | notFound =>
            obtain ⟨i, bound, missing⟩ := outcome
            exact ⟨i + 1, Nat.succ_lt_succ bound, missing⟩
          | _ =>
            obtain ⟨part', mem, long⟩ | ⟨i, bound, missing, file⟩ := outcome
            · exact .inl ⟨part', List.mem_cons_of_mem _ mem, long⟩
            · exact .inr ⟨i + 1, Nat.succ_lt_succ bound, missing, file⟩
      · cases rest with
        | nil =>
          have first (i : Nat) (bound : i < 1) :
              t.isDirectory (([part].take i).foldl Place.into p) := by
            obtain rfl : i = 0 := by omega
            exact inside
          simpa [follow, further, Nat.le_of_not_lt long] using first
        | cons next rest =>
          have missing : t.isDirectory (p.into part) = false := by simpa using further
          have bound : 1 < (part :: next :: rest).length := Nat.succ_lt_succ (Nat.succ_pos _)
          rw [missing, Bool.false_or, List.isEmpty_cons, if_neg Bool.false_ne_true]
          cases file : t.file? (p.into part) with
          | none => exact ⟨1, bound, missing⟩
          | some bytes =>
            have blocked : t.file? (p.into part) ≠ none := by simp [file]
            exact .inr ⟨1, bound, missing, blocked⟩

/-! ## Resolving paths -/

/-- Whether a directory is at a place, or one could be made there. -/
def IsFree (t : FileTree) (place : Place) : Prop :=
  t.isDirectory place ∨ t.file? place = none

/-- Whether all places before the last one of a path are directories, or could be. -/
structure IsPassable (t : FileTree) (p : Path) : Prop where
  fits : p.Fits
  free : ∀ i < p.parts.length, t.IsFree (p.through i)

theorem resolve_outcome (t : FileTree) (p : Path) :
    match t.resolve p with
    | .ok place => place = p.place ∧ p.Fits ∧ ∀ i < p.parts.length, t.isDirectory (p.through i)
    | .error .notFound => ∃ i < p.parts.length, t.isDirectory (p.through i) = false
    | .error _ => ¬ t.IsPassable p := by
  rw [resolve]
  by_cases null : p.toText.contains '\x00'
  · rw [if_pos null]
    intro passable
    simp [passable.fits.noNull] at null
  rw [if_neg null]
  by_cases long : maxPathLength < p.toText.utf8ByteSize
  · rw [if_pos long]
    intro passable
    exact Nat.not_lt.mpr passable.fits.length long
  rw [if_neg long]
  have outcome := t.follow_outcome _ (t.isDirectory_start p.anchor) p.parts
  cases followed : t.follow (.start p.anchor) p.parts with
  | ok place =>
    rw [followed] at outcome
    obtain ⟨rfl, names, through⟩ := outcome
    have fits : p.Fits := ⟨by simpa using null, Nat.not_lt.mp long, names⟩
    exact ⟨by simp [Path.place, Path.through], fits, through⟩
  | error cause =>
    rw [followed] at outcome
    cases cause with
    | notFound => exact outcome
    | _ =>
      intro passable
      obtain ⟨part, mem, long⟩ | ⟨i, bound, missing, file⟩ := outcome
      · exact Nat.not_lt.mpr (passable.fits.names part mem) long
      · obtain directory | none := passable.free i bound
        · exact Bool.false_ne_true (missing.symm.trans directory)
        · exact file none

/-- A path is resolved exactly if it fits and all its places but the last are directories. -/
theorem resolve_eq_ok_iff (t : FileTree) (p : Path) (place : Place) :
    t.resolve p = .ok place ↔
      place = p.place ∧ p.Fits ∧ ∀ i < p.parts.length, t.isDirectory (p.through i) := by
  have outcome := t.resolve_outcome p
  constructor
  · intro resolved
    rwa [resolved] at outcome
  · rintro ⟨rfl, fits, through⟩
    cases resolved : t.resolve p with
    | ok place =>
      rw [resolved] at outcome
      rw [outcome.1]
    | error cause =>
      rw [resolved] at outcome
      cases cause with
      | notFound =>
        obtain ⟨i, bound, missing⟩ := outcome
        exact absurd (missing.symm.trans (through i bound)) Bool.false_ne_true
      | _ => exact absurd ⟨fits, fun i bound => .inl (through i bound)⟩ outcome

/-! ## Reading -/

theorem read_eq_ok_iff (t : FileTree) (p : Path) (bytes : List UInt8) :
    t.read p = .ok bytes ↔
      t.resolve p = .ok p.place ∧ t.isDirectory p.place = false ∧ t.file? p.place = some bytes := by
  rw [read]
  cases resolved : t.resolve p with
  | error cause => exact iff_of_false nofun nofun
  | ok place =>
    obtain ⟨rfl, _⟩ := (t.resolve_eq_ok_iff p place).mp resolved
    change named p (if t.isDirectory p.place then _ else _) = _ ↔ _
    cases t.isDirectory p.place with
    | true => exact iff_of_false nofun nofun
    | false =>
      cases t.file? p.place with
      | none => exact iff_of_false nofun nofun
      | some old =>
        change Except.ok old = Except.ok bytes ↔ _
        simp

/-! ## Making directories -/

/-- Whether a directory is at the end of a path or can be made there, with those on the way. -/
structure IsOpen (t : FileTree) (p : Path) : Prop extends t.IsPassable p where
  last : t.IsFree p.place

theorem isOpen_of_directories {t : FileTree} {p : Path} (fits : p.Fits)
    (through : ∀ i < p.parts.length, t.isDirectory (p.through i)) (last : t.IsFree p.place) :
    t.IsOpen p :=
  ⟨⟨fits, fun i bound => .inl (through i bound)⟩, last⟩

theorem makeDirectory_eq (t : FileTree) (p : Path) :
    t.makeDirectory p =
      match t.resolve p with
      | .error cause => .error cause
      | .ok place =>
        if t.isDirectory place || (t.file? place).isSome then .error .alreadyThere
        else .ok { t with directories := place :: t.directories } := by
  rw [makeDirectory]
  cases t.resolve p with
  | error cause => rfl
  | ok place =>
    change (if t.isDirectory place || (t.file? place).isSome then _ else _) =
      if t.isDirectory place || (t.file? place).isSome then _ else _
    cases t.isDirectory place || (t.file? place).isSome <;> rfl

/-- Whether a tree is another one with more directories. -/
structure Adds (places : Place → Prop) (t t' : FileTree) : Prop where
  files : t'.files = t.files
  directories : ∀ q, t'.isDirectory q ↔ t.isDirectory q ∨ places q

/-- Directories in free places leave the same places free. -/
theorem Adds.isFree_iff {places : Place → Prop} {t t' : FileTree} (adds : Adds places t t')
    (free : ∀ q, places q → t.IsFree q) (q : Place) : t'.IsFree q ↔ t.IsFree q := by
  have file : t'.file? q = t.file? q := by rw [file?, adds.files, file?]
  rw [IsFree, IsFree, adds.directories, file]
  constructor
  · rintro ((directory | added) | none)
    · exact .inl directory
    · exact free q added
    · exact .inr none
  · rintro (directory | none)
    · exact .inl (.inl directory)
    · exact .inr none

theorem Adds.isOpen_iff {places : Place → Prop} {t t' : FileTree} (adds : Adds places t t')
    (free : ∀ q, places q → t.IsFree q) (p : Path) : t'.IsOpen p ↔ t.IsOpen p := by
  have same := adds.isFree_iff free
  constructor
  · rintro ⟨⟨fits, through⟩, last⟩
    exact ⟨⟨fits, fun i bound => (same _).mp (through i bound)⟩, (same _).mp last⟩
  · rintro ⟨⟨fits, through⟩, last⟩
    exact ⟨⟨fits, fun i bound => (same _).mpr (through i bound)⟩, (same _).mpr last⟩

/-- The places of the directories that lie on a path and at its end. -/
def Along (p : Path) (q : Place) : Prop := ∃ i ≤ p.parts.length, q = p.through i

theorem IsOpen.along {t : FileTree} {p : Path} (isOpen : t.IsOpen p) (q : Place)
    (along : Along p q) : t.IsFree q := by
  obtain ⟨i, bound, rfl⟩ := along
  obtain before | rfl := Nat.lt_or_eq_of_le bound
  · exact isOpen.free i before
  · exact isOpen.last

/-- Where the directories on the way are there already, there is only the last one to add. -/
theorem Adds.along {p : Path} {t t' : FileTree} (adds : Adds (· = p.place) t t')
    (through : ∀ i < p.parts.length, t.isDirectory (p.through i)) : Adds (Along p) t t' := by
  refine ⟨adds.files, fun q => ?_⟩
  rw [adds.directories]
  constructor
  · rintro (directory | rfl)
    · exact .inl directory
    · exact .inr ⟨_, Nat.le_refl _, rfl⟩
  · rintro (directory | ⟨i, bound, rfl⟩)
    · exact .inl directory
    · obtain before | rfl := Nat.lt_or_eq_of_le bound
      · exact .inl (through i before)
      · exact .inr rfl

theorem ensureDirectory_outcome (t : FileTree) (p : Path) :
    match t.ensureDirectory p with
    | .ok t' => t.IsOpen p ∧ Adds (Along p) t t'
    | .error .notFound => ∃ i < p.parts.length, t.isDirectory (p.through i) = false
    | .error _ => ¬ t.IsOpen p := by
  have outcome := t.resolve_outcome p
  rw [ensureDirectory, makeDirectory_eq, leadsToDirectory]
  cases resolved : t.resolve p with
  | error cause =>
    rw [resolved] at outcome
    cases cause with
    | notFound => simpa using outcome
    | _ => simpa using fun isOpen : t.IsOpen p => outcome isOpen.toIsPassable
  | ok place =>
    rw [resolved] at outcome
    obtain ⟨rfl, fits, through⟩ := outcome
    dsimp only
    by_cases directory : t.isDirectory p.place
    · have same : Adds (· = p.place) t t := by
        refine ⟨rfl, fun q => ⟨.inl, ?_⟩⟩
        rintro (other | rfl) <;> assumption
      simp only [directory, Bool.true_or, if_true]
      exact ⟨isOpen_of_directories fits through (.inl directory), same.along through⟩
    · cases file : t.file? p.place with
      | none =>
        have added : Adds (· = p.place) t { t with directories := p.place :: t.directories } := by
          refine ⟨rfl, fun q => ?_⟩
          simp [isDirectory]
          tauto
        rw [if_neg (by simpa using directory)]
        exact ⟨isOpen_of_directories fits through (.inr file), added.along through⟩
      | some bytes =>
        have closed : ¬ t.IsOpen p := by
          rintro ⟨_, is | none⟩
          · exact directory is
          · simp [file] at none
        simpa [directory] using closed

theorem change_apply (operation : FileTree → Except FileError FileTree) (t : FileTree) :
    change operation t =
      match operation t with
      | .ok t' => .ok () t'
      | .error e => .error e t := by
  change (match operation t with | .ok t' => set t' | .error e => throw e : Change) t = _
  cases operation t <;> rfl

theorem ensureDirectories_succ_apply (p : Path) (depth : Nat) (t : FileTree) :
    ensureDirectories p (depth + 1) t =
      match t.ensureDirectory p with
      | .ok t' => .ok () t'
      | .error .notFound =>
        match ensureDirectories p.parent depth t with
        | .ok () t' => change (fun t => named p (t.ensureDirectory p)) t'
        | .error e t' => .error e t'
      | .error cause => .error ⟨cause, p⟩ t := by
  change (match t.ensureDirectory p with
    | .ok t' => set t'
    | .error .notFound => do
      ensureDirectories p.parent depth
      change fun t => named p (t.ensureDirectory p)
    | .error cause => throw ⟨cause, p⟩ : Change) t = _
  cases t.ensureDirectory p with
  | ok t' => rfl
  | error cause =>
    cases cause with
    | notFound =>
      change EStateM.bind _ _ t = _
      rw [EStateM.bind]
      cases ensureDirectories p.parent depth t <;> rfl
    | _ => rfl

theorem IsPassable.parent {t : FileTree} {p : Path} (passable : t.IsPassable p) :
    t.IsOpen p.parent := by
  have free (i : Nat) (bound : i ≤ p.parts.length - 1) : t.IsFree (p.parent.through i) := by
    rw [p.through_parent bound]
    by_cases none : p.parts = []
    · -- There is nothing but the place that the path starts from.
      simpa [Path.through, none] using .inl (t.isDirectory_start p.anchor)
    · exact passable.free i (by have := List.length_pos_iff.mpr none; omega)
  rw [← p.length_parent] at free
  exact ⟨⟨passable.fits.parent, fun i bound => free i (Nat.le_of_lt bound)⟩, free _ (Nat.le_refl _)⟩

theorem along_parent_iff {p : Path} (q : Place) (below : 0 < p.parts.length) :
    Along p.parent q ↔ ∃ i < p.parts.length, q = p.through i := by
  rw [Along, p.length_parent]
  constructor
  · rintro ⟨i, bound, rfl⟩
    exact ⟨i, by omega, p.through_parent bound⟩
  · rintro ⟨i, bound, rfl⟩
    exact ⟨i, by omega, (p.through_parent (by omega)).symm⟩

theorem Adds.through {p : Path} {t t' : FileTree} (adds : Adds (Along p.parent) t t') (i : Nat)
    (bound : i < p.parts.length) : t'.isDirectory (p.through i) :=
  (adds.directories _).mpr (.inr ((along_parent_iff _ (by omega)).mpr ⟨i, bound, rfl⟩))

theorem Along.of_parent {p : Path} {q : Place} (along : Along p.parent q) : Along p q := by
  obtain ⟨i, bound, rfl⟩ := along
  rw [p.length_parent] at bound
  exact ⟨i, by omega, p.through_parent bound⟩

theorem Adds.trans {p : Path} {t t' t'' : FileTree} (above : Adds (Along p.parent) t t')
    (rest : Adds (Along p) t' t'') : Adds (Along p) t t'' := by
  refine ⟨rest.files.trans above.files, fun q => ?_⟩
  rw [rest.directories, above.directories, or_assoc, or_iff_right_of_imp Along.of_parent]

/-- Making a directory with those on the way succeeds unless something else is in the place of one
    of them, and touches no file. -/
theorem ensureDirectories_outcome (p : Path) (depth : Nat) (length : depth = p.parts.length)
    (t : FileTree) :
    match ensureDirectories p depth t with
    | .ok () t' => t.IsOpen p ∧ Adds (Along p) t t'
    | .error _ t' => ¬ t.IsOpen p ∧ t'.files = t.files := by
  induction depth generalizing p t with
  | zero =>
    rw [ensureDirectories, change_apply]
    have outcome := t.ensureDirectory_outcome p
    cases made : t.ensureDirectory p with
    | ok t' =>
      rw [made] at outcome
      exact outcome
    | error cause =>
      rw [made] at outcome
      cases cause with
      | notFound =>
        obtain ⟨i, bound, _⟩ := outcome
        omega
      | _ => exact ⟨outcome, rfl⟩
  | succ depth ih =>
    rw [ensureDirectories_succ_apply]
    have outcome := t.ensureDirectory_outcome p
    cases made : t.ensureDirectory p with
    | ok t' =>
      rw [made] at outcome
      exact outcome
    | error cause =>
      rw [made] at outcome
      cases cause with
      | notFound =>
        have above := ih p.parent (by rw [p.length_parent, ← length]; rfl) t
        cases madeAbove : ensureDirectories p.parent depth t with
        | error e t₁ =>
          rw [madeAbove] at above
          exact ⟨fun isOpen => above.1 isOpen.parent, above.2⟩
        | ok _ t₁ =>
          rw [madeAbove] at above
          obtain ⟨openAbove, adds⟩ := above
          -- Now all directories on the way are there, so that the second try decides.
          have reopened := adds.isOpen_iff openAbove.along p
          have again := t₁.ensureDirectory_outcome p
          dsimp only
          rw [change_apply]
          cases remade : t₁.ensureDirectory p with
          | ok t₂ =>
            rw [remade] at again
            exact ⟨reopened.mp again.1, adds.trans again.2⟩
          | error cause =>
            rw [remade] at again
            cases cause with
            | notFound =>
              obtain ⟨i, bound, missing⟩ := again
              exact absurd (missing.symm.trans (adds.through i bound)) Bool.false_ne_true
            | _ => exact ⟨fun isOpen => again (reopened.mpr isOpen), adds.files⟩
      | _ => exact ⟨outcome, rfl⟩

/-! ## Writing -/

theorem lookup_putFile (place q : Place) (bytes : List UInt8)
    (files : List (Place × List UInt8)) :
    (putFile place bytes files).lookup q = if q = place then some bytes else files.lookup q := by
  have lookup_cons (p : Place) (old : List UInt8) (files : List (Place × List UInt8)) :
      ((p, old) :: files).lookup q = if q = p then some old else files.lookup q := by
    rw [List.lookup_cons]
    by_cases same : q = p
    · simp [same]
    · simp [same, beq_false_of_ne same]
  induction files with
  | nil => rw [putFile, lookup_cons]
  | cons file files ih =>
    obtain ⟨p, old⟩ := file
    rw [putFile]
    by_cases here : p = place
    · subst here
      rw [if_pos rfl, lookup_cons, lookup_cons]
      split <;> rfl
    · rw [if_neg here, lookup_cons, lookup_cons, ih]
      by_cases same : q = p
      · subst same
        simp [here]
      · simp [same]

theorem file?_putFile (t : FileTree) (place q : Place) (bytes : List UInt8) :
    ({ t with files := putFile place bytes t.files } : FileTree).file? q =
      if q = place then some bytes else t.file? q :=
  lookup_putFile place q bytes t.files

theorem write_eq (t : FileTree) (p : Path) (bytes : List UInt8) :
    t.write p bytes =
      match t.resolve p with
      | .error cause => .error ⟨cause, p⟩
      | .ok place =>
        if t.isDirectory place then .error ⟨.isDirectory, p⟩
        else .ok { t with files := putFile place bytes t.files } := by
  rw [write]
  cases t.resolve p with
  | error cause => rfl
  | ok place =>
    change named p (if t.isDirectory place then _ else _) = if t.isDirectory place then _ else _
    cases t.isDirectory place <;> rfl

/-- Whether a file can be written at a path, once the directories that it lies in are made: they
    can be made, and none of them, nor any other directory, is where the file should be. -/
structure IsWritable (t : FileTree) (p : Path) : Prop extends t.IsPassable p where
  notDirectory : t.isDirectory p.place = false
  notAbove : ∀ i < p.parts.length, p.place ≠ p.through i

theorem writeWithDirectories_apply (p : Path) (bytes : List UInt8) (t : FileTree) :
    writeWithDirectories p bytes t =
      match ensureDirectories p.parent p.parent.parts.length t with
      | .ok () t' => change (fun t => t.write p bytes) t'
      | .error e t' => .error e t' := by
  change EStateM.bind _ _ t = _
  rw [EStateM.bind]
  cases ensureDirectories p.parent p.parent.parts.length t <;> rfl

/-- Once the directories on the way are made, a directory is at the end of a path if it was there
    before or is one of them. -/
theorem Adds.isDirectory_place {t t' : FileTree} {p : Path} (adds : Adds (Along p.parent) t t') :
    t'.isDirectory p.place = false ↔
      t.isDirectory p.place = false ∧ ∀ i < p.parts.length, p.place ≠ p.through i := by
  rw [Bool.eq_false_iff, ne_eq, adds.directories, not_or, Bool.eq_false_iff]
  by_cases below : 0 < p.parts.length
  · simp [along_parent_iff _ below]
  · -- The path ends where it starts, and there is always a directory.
    have start : t.isDirectory p.place := by
      simpa [Path.place, Path.through, List.length_eq_zero_iff.mp (Nat.eq_zero_of_not_pos below)]
        using t.isDirectory_start p.anchor
    simp [start]

/-- Writing a file with its directories: where one can be written, the bytes are there afterwards,
    and otherwise no file has changed. -/
theorem writeWithDirectories_outcome (t : FileTree) (p : Path) (bytes : List UInt8) :
    match writeWithDirectories p bytes t with
    | .ok () t' => t.IsWritable p ∧ t'.read p = .ok bytes ∧
        ∀ place, t'.file? place = if place = p.place then some bytes else t.file? place
    | .error _ t' => ¬ t.IsWritable p ∧ t'.files = t.files := by
  rw [writeWithDirectories_apply]
  have above := ensureDirectories_outcome p.parent _ rfl t
  cases made : ensureDirectories p.parent p.parent.parts.length t with
  | error e t₁ =>
    rw [made] at above
    exact ⟨fun writable => above.1 writable.toIsPassable.parent, above.2⟩
  | ok _ t₁ =>
    rw [made] at above
    obtain ⟨openAbove, adds⟩ := above
    dsimp only
    rw [change_apply, write_eq]
    cases resolved : t₁.resolve p with
    | error cause =>
      refine ⟨fun writable => ?_, adds.files⟩
      rw [(t₁.resolve_eq_ok_iff p p.place).mpr ⟨rfl, writable.fits, adds.through⟩] at resolved
      cases resolved
    | ok place =>
      obtain ⟨rfl, fits, through⟩ := (t₁.resolve_eq_ok_iff p place).mp resolved
      dsimp only
      cases directory : t₁.isDirectory p.place with
      | true =>
        refine ⟨fun writable => ?_, adds.files⟩
        rw [adds.isDirectory_place.mpr ⟨writable.notDirectory, writable.notAbove⟩] at directory
        cases directory
      | false =>
        obtain ⟨notDirectory, notAbove⟩ := adds.isDirectory_place.mp directory
        have free (i : Nat) (bound : i < p.parts.length) : t.IsFree (p.through i) :=
          (adds.isFree_iff openAbove.along _).mp (.inl (through i bound))
        have files (place : Place) :
            ({ t₁ with files := putFile p.place bytes t₁.files } : FileTree).file? place =
              if place = p.place then some bytes else t.file? place := by
          rw [file?_putFile, file?, adds.files, file?]
        -- Paths are resolved by the directories alone.
        have reresolved := (resolve_eq_ok_iff { t₁ with files := putFile p.place bytes t₁.files }
          p p.place).mpr ⟨rfl, fits, through⟩
        have reads := (read_eq_ok_iff _ p bytes).mpr
          ⟨reresolved, directory, (files p.place).trans (if_pos rfl)⟩
        exact ⟨⟨⟨fits, free⟩, notDirectory, notAbove⟩, reads, files⟩

end FileTree

end ChipEight.Host
