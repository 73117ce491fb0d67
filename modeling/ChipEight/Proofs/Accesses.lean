import ChipEight.Proofs.Memory

/-!
# Accesses to memory of every size

A memory can have any number of bytes, from as many as the glyphs need, and so it may end in front
of the place of programs. It is never made longer or shorter: `Memory.Exact` says what each access to
a memory of some size comes to, and every memory is exact whatever has been asked of it before
(`exact_after_accesses`).
-/

namespace ChipEight.Memory

/-- What can be asked of a memory. -/
inductive Access
  | read (address : Int) (length : Nat)
  | write (address : Int) (block : List UInt8)
  | load (rom : List UInt8)
  | loadFont
  deriving DecidableEq, Repr

/-- The answer of an access and the memory that it leaves. Only a read has bytes to answer. -/
def Access.exec : Access → EStateM Fault Memory (List UInt8)
  | .read address length => fun m =>
    match m.readBlock address length with
    | .error fault => .error fault m
    | .ok block => .ok block m
  | .write address block => fun m =>
    match m.writeBlock address block with
    | .error fault => .error fault m
    | .ok m' => .ok [] m'
  | .load rom => fun m =>
    match m.load rom with
    | .error fault => .error fault m
    | .ok m' => .ok [] m'
  | .loadFont => fun m => .ok [] m.loadFont

/-- The memory after an access, whether or not it was refused. -/
def after (m : Memory) (a : Access) : Memory :=
  match a.exec m with
  | .ok _ m' | .error _ m' => m'

/-! ## The ends of memory -/

/-- Whether some of `length` bytes at an address are not in a memory of `n` bytes. -/
def Outside (n : Nat) (address : Int) (length : Nat) : Prop :=
  address < 0 ∨ n < address + length

/-- The address that is named when there is no access to bytes from `address` on. -/
def namedAddress (n : Nat) (address : Int) : Int :=
  if address < 0 then address else max address n

/-- What every access to a memory of `n` bytes comes to. -/
structure Exact (n : Nat) (m : Memory) : Prop where
  size : m.size = n
  read_refused : ∀ address length, Outside n address length →
    Access.exec (.read address length) m = .error (.memory (namedAddress n address)) m
  read : ∀ address length, ¬ Outside n address length →
    ∃ block, Access.exec (.read address length) m = .ok block m ∧ block.length = length ∧
      ∀ i < length, block[i]? = m.bytes[address.toNat + i]?
  write_refused : ∀ address block, Outside n address block.length →
    Access.exec (.write address block) m = .error (.memory (namedAddress n address)) m
  write : ∀ address block, ¬ Outside n address block.length →
    ∃ m', Access.exec (.write address block) m = .ok [] m' ∧
      Access.exec (.read address block.length) m' = .ok block m' ∧
      ∀ i : Nat, ¬ (address ≤ i ∧ i < address + block.length) → m'.bytes[i]? = m.bytes[i]?
  load_refused : ∀ rom : List UInt8, (n : Int) - 0x200 < rom.length →
    Access.exec (.load rom) m = .error (.romTooLarge rom.length (n - 0x200)) m
  load : ∀ rom : List UInt8, (rom.length : Int) ≤ n - 0x200 →
    ∃ m', Access.exec (.load rom) m = .ok [] m' ∧ ∀ i : Nat, m'.bytes[i]? =
      if 0x200 ≤ i ∧ i < 0x200 + rom.length then rom[i - 0x200]? else m.bytes[i]?
  /-- There may be no room for any program, not even for one without bytes. -/
  load_small : n < 0x200 → ∀ rom : List UInt8,
    Access.exec (.load rom) m = .error (.romTooLarge rom.length (n - 0x200)) m

theorem check_of_outside (m : Memory) {address : Int} {length : Nat}
    (outside : Outside m.size address length) :
    m.check address length = .error (.memory (namedAddress m.size address)) := by
  unfold namedAddress
  split
  · next before => exact m.check_of_before length before
  · next low =>
    obtain before | behind := outside
    · exact absurd before low
    · exact m.check_of_behind (Int.not_lt.mp low) behind

theorem not_outside_iff (n : Nat) (address : Int) (length : Nat) :
    ¬ Outside n address length ↔ 0 ≤ address ∧ address + length ≤ n := by
  simp only [Outside, not_or, Int.not_lt]

theorem exact_size (m : Memory) : m.Exact m.size where
  size := rfl
  read_refused address length outside := by
    simp only [Access.exec, readBlock_of_refused (m.check_of_outside outside)]
  read address length inside := by
    obtain ⟨low, high⟩ := (not_outside_iff _ _ _).mp inside
    have read := (m.readBlock_eq_ok_iff address length _).mpr ⟨low, high, rfl⟩
    refine ⟨_, ?_, length_of_readBlock read, fun i => getElem?_of_readBlock read⟩
    simp only [Access.exec, read]
  write_refused address block outside := by
    simp only [Access.exec, writeBlock_of_refused (m.check_of_outside outside)]
  write address block inside := by
    obtain ⟨low, high⟩ := (not_outside_iff _ _ _).mp inside
    have written := (m.writeBlock_eq_ok_iff _ address block).mpr ⟨low, high, rfl⟩
    refine ⟨_, ?_, ?_, fun i => getElem?_of_writeBlock written⟩
    · simp only [Access.exec, written]
    · simp only [Access.exec, readBlock_of_writeBlock written]
  load_refused rom large := by
    simp only [Access.exec, m.load_of_large large]
    rfl
  load rom room := by
    obtain ⟨m', loaded, bytes⟩ := m.load_eq_ok rom (by rw [romBase]; omega)
    exact ⟨m', by simp only [Access.exec, loaded], bytes⟩
  load_small small rom := by
    have large : m.available < rom.length := by
      rw [available, romBase]
      omega
    simp only [Access.exec, m.load_of_large large]
    rfl

/-! ## Sizes -/

/-- No access makes a memory longer or shorter that has room for the glyphs. -/
theorem size_after (m : Memory) (room : Font.glyphs.length ≤ m.size) (a : Access) :
    (m.after a).size = m.size := by
  cases a with
  | read address length =>
    simp only [after, Access.exec]
    cases m.readBlock address length <;> rfl
  | write address block =>
    simp only [after, Access.exec]
    cases written : m.writeBlock address block with
    | error fault => rfl
    | ok m' => exact size_of_writeBlock written
  | load rom =>
    simp only [after, Access.exec]
    cases loaded : m.load rom with
    | error fault => rfl
    | ok m' => exact size_of_load loaded
  | loadFont => exact (size_loadFont m).trans (Nat.max_eq_left room)

theorem size_foldl_after (m : Memory) (room : Font.glyphs.length ≤ m.size)
    (accesses : List Access) : (accesses.foldl after m).size = m.size := by
  induction accesses generalizing m with
  | nil => rfl
  | cons a accesses ih =>
    have same := m.size_after room a
    rw [List.foldl_cons, ih (m.after a) (same ▸ room), same]

/-- A memory made with any size has that size, or that of the glyphs if they need more, and keeps it
    through all accesses. Each of them is refused exactly if it leaves the memory, which then is as
    it was, and else it reads, or replaces, just the bytes of its addresses. -/
theorem exact_after_accesses (size : Nat) (accesses : List Access) :
    (accesses.foldl after (ofSize size)).Exact (max size 80) := by
  have kept : (accesses.foldl after (ofSize size)).size = max size 80 := by
    rw [size_foldl_after _ (size_ofSize size ▸ Nat.le_max_right _ _), size_ofSize]
    rfl
  rw [← kept]
  exact exact_size _

end ChipEight.Memory
