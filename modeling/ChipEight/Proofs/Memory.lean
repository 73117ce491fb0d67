import ChipEight.Memory
import Mathlib

/-!
# Blocks of memory

What the checked accesses come to: exactly when one is allowed, that a block read has the length
asked for, and that a block written takes the place of as many bytes, so that no access moves the
bytes behind it.
-/

namespace ChipEight.Memory

/-! ## Checks -/

theorem check_eq_error {m : Memory} {address length : Int} {fault : Fault}
    (h : m.check address length = .error fault) : ∃ outside, fault = .memory outside := by
  unfold check at h
  split at h
  · exact ⟨_, (Except.error.inj h).symm⟩
  · split at h
    · exact ⟨_, (Except.error.inj h).symm⟩
    · cases h

/-- An access that begins in front of memory names the address at which it begins. -/
theorem check_of_before (m : Memory) {address : Int} (length : Int) (before : address < 0) :
    m.check address length = .error (.memory address) := by
  rw [check, if_pos before]

/-- An access that reaches behind memory names the first address that it does not have. -/
theorem check_of_behind (m : Memory) {address length : Int} (low : 0 ≤ address)
    (behind : m.size < address + length) :
    m.check address length = .error (.memory (max address m.size)) := by
  rw [check, if_neg (by omega), if_pos behind]

/-! ## Reading -/

theorem readBlock_eq_error {m : Memory} {address length : Int} {fault : Fault}
    (h : m.readBlock address length = .error fault) : ∃ outside, fault = .memory outside := by
  cases outcome : m.check address length with
  | error refused =>
    simp only [readBlock, outcome] at h
    obtain rfl : refused = fault := Except.error.inj h
    exact check_eq_error outcome
  | ok =>
    simp only [readBlock, outcome] at h
    cases h

/-- A read is refused as its check is. -/
theorem readBlock_of_refused {m : Memory} {address length : Int} {fault : Fault}
    (refused : m.check address length = .error fault) : m.readBlock address length = .error fault := by
  simp only [readBlock, refused]
  rfl

theorem readBlock_of_behind (m : Memory) {address length : Int} (low : 0 ≤ address)
    (behind : m.size < address + length) :
    m.readBlock address length = .error (.memory (max address m.size)) :=
  readBlock_of_refused (m.check_of_behind low behind)

theorem readVector_eq_ok_iff (m : Memory) (address : Int) {length : Nat}
    (block : Vector UInt8 length) :
    m.readVector address length = .ok block ↔ m.readBlock address length = .ok block.toList := by
  unfold readVector
  split
  next fault refused => simp [refused]
  next bytes read =>
    constructor
    · rintro ⟨⟩
      exact read
    · intro same
      obtain rfl := Except.ok.inj (read.symm.trans same)
      rfl

theorem exists_readVector {m : Memory} {address : Int} {length : Nat} {block : List UInt8}
    (read : m.readBlock address length = .ok block) :
    ∃ v : Vector UInt8 length, v.toList = block ∧ m.readVector address length = .ok v :=
  ⟨⟨block.toArray, length_of_readBlock read⟩, rfl, (m.readVector_eq_ok_iff address _).mpr read⟩

theorem readVector_eq_error_iff (m : Memory) (address : Int) (length : Nat) (fault : Fault) :
    m.readVector address length = .error fault ↔ m.readBlock address length = .error fault := by
  unfold readVector
  split
  next refused => simp [refused]
  next read => simp [read]

/-- A block that is read holds the bytes from its address on. -/
theorem getElem?_of_readBlock {m : Memory} {address : Int} {length : Nat} {block : List UInt8}
    (h : m.readBlock address length = .ok block) {i : Nat} (inside : i < length) :
    block[i]? = m.bytes[address.toNat + i]? := by
  obtain ⟨-, -, rfl⟩ := (m.readBlock_eq_ok_iff address length block).mp h
  rw [List.getElem?_take_of_lt inside, List.getElem?_drop, Array.getElem?_toList]

/-- A block depends on nothing but the bytes of its addresses. -/
theorem readBlock_congr {m m' : Memory} {address : Int} {length : Nat} {block : List UInt8}
    (h : m.readBlock address length = .ok block) (some : 0 < length)
    (same : ∀ i : Nat, address ≤ i → i < address + length → m'.bytes[i]? = m.bytes[i]?) :
    m'.readBlock address length = .ok block := by
  obtain ⟨low, high, -⟩ := (m.readBlock_eq_ok_iff address length block).mp h
  rw [Memory.size] at high
  -- The last byte of the block is there in both memories.
  have last : address.toNat + (length - 1) < m'.bytes.size := by
    by_contra behind
    have missing := same (address.toNat + (length - 1)) (by omega) (by omega)
    rw [Array.getElem?_eq_none (Nat.not_lt.mp behind), Array.getElem?_eq_getElem (by omega)] at missing
    cases missing
  refine (m'.readBlock_eq_ok_iff address length block).mpr ⟨low, by rw [Memory.size]; omega, ?_⟩
  apply List.ext_getElem?
  intro i
  by_cases inside : i < length
  · rw [getElem?_of_readBlock h inside, List.getElem?_take_of_lt inside, List.getElem?_drop,
      Array.getElem?_toList, same _ (by omega) (by omega)]
  · rw [List.getElem?_eq_none (by rw [length_of_readBlock h]; omega),
      List.getElem?_eq_none (by rw [List.length_take]; omega)]

/-! ## Writing -/

/-- A block is written exactly if it lies in memory. -/
theorem writeBlock_eq_ok_iff (m m' : Memory) (address : Int) (block : List UInt8) :
    m.writeBlock address block = .ok m' ↔
      0 ≤ address ∧ address + block.length ≤ m.size ∧
      m' = ⟨splice m.bytes address.toNat (address.toNat + block.length) block⟩ := by
  have checked := m.check_eq_ok_iff address block.length
  cases outcome : m.check address block.length with
  | error fault =>
    have refused : ¬(0 ≤ address ∧ address + (block.length : Int) ≤ m.size) := by
      rw [← checked, outcome]
      simp
    simp only [writeBlock, outcome]
    constructor
    · intro h
      cases h
    · rintro ⟨low, high, -⟩
      exact absurd ⟨low, high⟩ refused
  | ok =>
    obtain ⟨low, high⟩ := checked.mp outcome
    simp only [writeBlock, outcome]
    change Except.ok _ = Except.ok m' ↔ _
    rw [Except.ok.injEq]
    constructor
    · intro h
      exact ⟨low, high, h.symm⟩
    · rintro ⟨-, -, h⟩
      exact h.symm

/-- After a write the memory is what it was, with the block in the place of as many bytes. -/
theorem toList_of_writeBlock {m m' : Memory} {address : Int} {block : List UInt8}
    (h : m.writeBlock address block = .ok m') :
    m'.bytes.toList =
      m.bytes.toList.take address.toNat ++ block ++
        m.bytes.toList.drop (address.toNat + block.length) := by
  obtain ⟨-, -, rfl⟩ := (m.writeBlock_eq_ok_iff m' address block).mp h
  rfl

/-- A write keeps the size, because the block replaces exactly as many bytes as it has. -/
theorem size_of_writeBlock {m m' : Memory} {address : Int} {block : List UInt8}
    (h : m.writeBlock address block = .ok m') : m'.size = m.size := by
  obtain ⟨low, high, rfl⟩ := (m.writeBlock_eq_ok_iff m' address block).mp h
  rw [Memory.size, size_splice]
  rw [Memory.size] at high ⊢
  omega

theorem writeBlock_eq_error {m : Memory} {address : Int} {block : List UInt8} {fault : Fault}
    (h : m.writeBlock address block = .error fault) : ∃ outside, fault = .memory outside := by
  cases outcome : m.check address block.length with
  | error refused =>
    simp only [writeBlock, outcome] at h
    obtain rfl : refused = fault := Except.error.inj h
    exact check_eq_error outcome
  | ok =>
    simp only [writeBlock, outcome] at h
    cases h

/-- A write is refused as its check is. -/
theorem writeBlock_of_refused {m : Memory} {address : Int} {block : List UInt8} {fault : Fault}
    (refused : m.check address block.length = .error fault) :
    m.writeBlock address block = .error fault := by
  simp only [writeBlock, refused]
  rfl

theorem writeBlock_of_behind (m : Memory) {address : Int} {block : List UInt8} (low : 0 ≤ address)
    (behind : m.size < address + block.length) :
    m.writeBlock address block = .error (.memory (max address m.size)) :=
  writeBlock_of_refused (m.check_of_behind low behind)

/-- A write leaves the bytes around its block. -/
theorem getElem?_of_writeBlock {m m' : Memory} {address : Int} {block : List UInt8}
    (h : m.writeBlock address block = .ok m') {i : Nat}
    (outside : ¬ (address ≤ i ∧ i < address + block.length)) : m'.bytes[i]? = m.bytes[i]? := by
  obtain ⟨low, high, rfl⟩ := (m.writeBlock_eq_ok_iff m' address block).mp h
  rw [Memory.size] at high
  exact (getElem?_splice _ _ _ (by omega) i).trans (if_neg (by omega))

/-- What has been written is read back. -/
theorem readBlock_of_writeBlock {m m' : Memory} {address : Int} {block : List UInt8}
    (h : m.writeBlock address block = .ok m') :
    m'.readBlock address block.length = .ok block := by
  obtain ⟨low, high, -⟩ := (m.writeBlock_eq_ok_iff m' address block).mp h
  have size := size_of_writeBlock h
  refine (m'.readBlock_eq_ok_iff address block.length block).mpr ⟨low, size ▸ high, ?_⟩
  have front : (m.bytes.toList.take address.toNat).length = address.toNat := by
    rw [List.length_take, Array.length_toList, Nat.min_eq_left]
    rw [Memory.size] at high
    omega
  rw [toList_of_writeBlock h, List.append_assoc, List.drop_left' front, List.take_left]

/-- Nothing changes when a block is written to where it has been read from. -/
theorem writeBlock_of_readBlock {m : Memory} {address : Int} {length : Nat} {block : List UInt8}
    (h : m.readBlock address length = .ok block) : m.writeBlock address block = .ok m := by
  obtain ⟨low, high, -⟩ := (m.readBlock_eq_ok_iff address length block).mp h
  have size := length_of_readBlock h
  refine (m.writeBlock_eq_ok_iff m address block).mpr ⟨low, size ▸ high, ?_⟩
  obtain ⟨bytes⟩ := m
  rw [Memory.size] at high
  congr 1
  apply Array.ext_getElem?
  intro i
  rw [getElem?_splice bytes address.toNat block (by dsimp only at high; omega) i]
  split
  · next inside =>
    rw [getElem?_of_readBlock h (by omega), Nat.add_sub_cancel' inside.1]
  · rfl

/-! ## Words -/

/-- The two bytes of a word that is read lie in memory, and the word has sixteen bits. -/
theorem readWord_eq_ok {m : Memory} {address : Int} {word : Nat}
    (h : m.readWord address = .ok word) :
    0 ≤ address ∧ address + 2 ≤ m.size ∧ word < 0x10000 := by
  cases outcome : m.readBlock address 2 with
  | error fault =>
    simp only [readWord, outcome] at h
    cases h
  | ok block =>
    simp only [readWord, outcome] at h
    obtain rfl := Except.ok.inj h
    obtain ⟨low, high, -⟩ := (m.readBlock_eq_ok_iff address 2 block).mp outcome
    refine ⟨low, high, ?_⟩
    have two : block.length = 2 := length_of_readBlock outcome
    match block, two with
    | [hi, lo], _ =>
      have hiBound := hi.toNat_lt
      have loBound := lo.toNat_lt
      simp only [List.foldl_cons, List.foldl_nil]
      omega

theorem readWord_eq_error {m : Memory} {address : Int} {fault : Fault}
    (h : m.readWord address = .error fault) :
    ∃ outside, fault = .memory outside := by
  cases outcome : m.readBlock address 2 with
  | error refused =>
    simp only [readWord, outcome] at h
    obtain rfl : refused = fault := Except.error.inj h
    exact readBlock_eq_error outcome
  | ok block =>
    simp only [readWord, outcome] at h
    cases h

/-- A word depends on nothing but its two bytes. -/
theorem readWord_congr {m m' : Memory} {address : Int} {word : Nat}
    (h : m.readWord address = .ok word)
    (same : ∀ i : Nat, address ≤ i → i < address + 2 → m'.bytes[i]? = m.bytes[i]?) :
    m'.readWord address = .ok word := by
  cases read : m.readBlock address 2 with
  | error fault =>
    simp only [readWord, read] at h
    cases h
  | ok block =>
    have kept : m'.readBlock address 2 = .ok block := readBlock_congr read Nat.two_pos same
    rw [readWord, read] at h
    rwa [readWord, kept]

theorem readWord_of_behind (m : Memory) {address : Int} (low : 0 ≤ address)
    (behind : m.size < address + 2) :
    m.readWord address = .error (.memory (max address m.size)) := by
  simp only [readWord, m.readBlock_of_behind low behind]
  rfl

theorem readWord_of_readBlock {m : Memory} {address : Int} {high low : UInt8}
    (read : m.readBlock address 2 = .ok [high, low]) :
    m.readWord address = .ok (0x100 * high.toNat + low.toNat) := by
  rw [readWord, read]
  change Except.ok _ = Except.ok _
  simp only [List.foldl_cons, List.foldl_nil]
  congr 1
  omega

/-- A word is read from the two bytes that make it. -/
theorem readWord_of_getElem? {m : Memory} {address : Nat} {high low : UInt8}
    (first : m.bytes[address]? = some high) (second : m.bytes[address + 1]? = some low) :
    m.readWord address = .ok (0x100 * high.toNat + low.toNat) := by
  obtain ⟨bound, _⟩ := Array.getElem?_eq_some_iff.mp second
  have two : [high, low] = (m.bytes.toList.drop address).take 2 := by
    rw [← Array.getElem?_toList] at first second
    rw [List.drop_eq_getElem?_toList_append, first, List.drop_eq_getElem?_toList_append, second]
    rfl
  have read : m.readBlock address 2 = .ok [high, low] := by
    refine (m.readBlock_eq_ok_iff address 2 _).mpr ⟨Int.natCast_nonneg _, ?_, ?_⟩
    · rw [Memory.size]
      omega
    · exact two
  exact readWord_of_readBlock read

/-- A word is read as it has been written. -/
theorem readWord_of_writeBlock {m m' : Memory} {address : Int} {high low : UInt8}
    (h : m.writeBlock address [high, low] = .ok m') :
    m'.readWord address = .ok (0x100 * high.toNat + low.toNat) :=
  readWord_of_readBlock (readBlock_of_writeBlock h)

/-! ## Loading -/

/-- A program is loaded exactly if memory has room for it. -/
theorem load_eq_ok_iff (m m' : Memory) (rom : List UInt8) :
    m.load rom = .ok m' ↔
      romBase + rom.length ≤ m.size ∧
      m' = ⟨splice m.bytes romBase (romBase + rom.length) rom⟩ := by
  rw [load, available]
  split
  next small =>
    have noRoom : ¬ romBase + rom.length ≤ m.size := by omega
    simp [noRoom]
  next large =>
    have room : romBase + rom.length ≤ m.size := by omega
    rw [Except.ok.injEq]
    exact ⟨fun same => ⟨room, same.symm⟩, fun loaded => loaded.2.symm⟩

/-- The bytes of a program that is loaded lie where programs begin, and those around it are as they
    were. -/
theorem load_eq_ok (m : Memory) (rom : List UInt8) (room : romBase + rom.length ≤ m.size) :
    ∃ m', m.load rom = .ok m' ∧ ∀ address : Nat, m'.bytes[address]? =
      if romBase ≤ address ∧ address < romBase + rom.length then rom[address - romBase]?
      else m.bytes[address]? := by
  refine ⟨_, (m.load_eq_ok_iff _ rom).mpr ⟨room, rfl⟩, getElem?_splice m.bytes romBase rom ?_⟩
  rw [Memory.size] at room
  omega

/-- A program is refused if memory has no room for it. -/
theorem load_of_large (m : Memory) {rom : List UInt8} (large : m.available < rom.length) :
    m.load rom = .error (.romTooLarge rom.length m.available) := by
  rw [load, if_pos large]

theorem size_of_load {m m' : Memory} {rom : List UInt8} (h : m.load rom = .ok m') :
    m'.size = m.size := by
  obtain ⟨room, rfl⟩ := (m.load_eq_ok_iff m' rom).mp h
  rw [Memory.size, size_splice]
  rw [Memory.size] at room ⊢
  omega

/-- A program that is loaded leaves what is in front of it. -/
theorem getElem?_of_load {m m' : Memory} {rom : List UInt8} (h : m.load rom = .ok m')
    {address : Nat} (below : address < romBase) : m'.bytes[address]? = m.bytes[address]? := by
  obtain ⟨room, rfl⟩ := (m.load_eq_ok_iff m' rom).mp h
  rw [Memory.size] at room
  exact (getElem?_splice _ _ _ (by omega) address).trans (if_neg (by omega))

/-- Putting the glyphs in place makes room for them if there is none. -/
theorem size_loadFont (m : Memory) : m.loadFont.size = max m.size Font.glyphs.length := by
  rw [Memory.size, loadFont, size_splice, Memory.size]
  omega

@[simp] theorem size_ofSize (size : Nat) : (ofSize size).size = max size Font.glyphs.length := by
  rw [ofSize, size_loadFont, Memory.size, Array.size_replicate]

/-- New memory has room for 3584 bytes of a program. -/
theorem exists_loaded (rom : List UInt8) (room : rom.length ≤ 3584) :
    ∃ m : Memory, ofSize.load rom = .ok m ∧ m.size = capacity ∧
      ∀ i < rom.length, m.bytes[romBase + i]? = rom[i]? := by
  have size : ofSize.size = 4096 := size_ofSize capacity
  obtain ⟨m, loaded, bytes⟩ := ofSize.load_eq_ok rom (by rw [size, romBase]; omega)
  refine ⟨m, loaded, (size_of_load loaded).trans size, fun i inside => ?_⟩
  rw [bytes, if_pos ⟨by omega, by omega⟩, Nat.add_sub_cancel_left]

/-- The words of a program that is loaded are those of its bytes. -/
theorem readWord_of_load {m m' : Memory} {rom : List UInt8} (loaded : m.load rom = .ok m')
    {address : Int} (i : Nat) (place : address = (romBase + i : Nat)) {high low : UInt8}
    (first : rom[i]? = some high) (second : rom[i + 1]? = some low) :
    m'.readWord address = .ok (0x100 * high.toNat + low.toNat) := by
  subst place
  obtain ⟨room, _⟩ := (m.load_eq_ok_iff m' rom).mp loaded
  obtain ⟨same, isLoaded, bytes⟩ := m.load_eq_ok rom room
  obtain rfl := Except.ok.inj (isLoaded.symm.trans loaded)
  have inside : i + 1 < rom.length := (List.getElem?_eq_some_iff.mp second).1
  refine readWord_of_getElem? ?_ ?_
  · rw [bytes, if_pos (by omega), Nat.add_sub_cancel_left, first]
  · rw [bytes, if_pos (by omega), Nat.add_assoc, Nat.add_sub_cancel_left, second]

/-- New memory begins with the glyphs. -/
theorem getElem?_ofSize (size address : Nat) (inside : address < Font.glyphs.length) :
    (ofSize size).bytes[address]? = Font.glyphs[address]? := by
  have here := getElem?_splice (Array.replicate size (0 : UInt8)) 0 Font.glyphs (Nat.zero_le _) address
  rwa [Nat.zero_add, if_pos (by omega), Nat.sub_zero] at here

end ChipEight.Memory
