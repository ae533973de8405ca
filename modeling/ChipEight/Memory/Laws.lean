import ChipEight.Memory.Basic
import ChipEight.Proofs.Except

/-! Each way into memory told by the byte at each address. -/

namespace ChipEight.Memory

/-- A list laid over memory is seen inside its range, and nothing else changes. -/
theorem getElem_overlay (bytes : List UInt8) (cells : Vector UInt8 memorySize)
    (address place : Nat) (inside : place < memorySize) :
    (overlay cells address bytes)[place] =
      if address ≤ place then (bytes[place - address]?).getD cells[place] else cells[place] := by
  induction bytes generalizing cells address with
  -- Without bytes there is none at any place.
  | nil => simp [overlay]
  | cons byte rest ih =>
    rw [overlay, ih]
    -- The first byte stands at the address itself, the others one further on.
    rcases Nat.lt_trichotomy address place with before | same | after
    · have next : place - address = place - (address + 1) + 1 := by omega
      simp [Nat.succ_le_of_lt before, Nat.le_of_lt before, next,
        Vector.getElem_setIfInBounds_ne inside (Nat.ne_of_lt before)]
    · subst same
      rw [if_neg (Nat.not_succ_le_self address), if_pos (Nat.le_refl address)]
      simp
    · simp [Nat.not_le_of_lt after, Nat.not_le_of_lt (Nat.lt_succ_of_lt after),
        Vector.getElem_setIfInBounds_ne inside (Nat.ne_of_gt after)]

/-- Nothing changes outside the range that a list is laid over. -/
theorem getElem_overlay_outside (bytes : List UInt8) (cells : Vector UInt8 memorySize)
    {address place : Nat} (inside : place < memorySize)
    (outside : place < address ∨ address + bytes.length ≤ place) :
    (overlay cells address bytes)[place] = cells[place] := by
  rw [getElem_overlay]
  split
  · -- Past the end of the list there is no byte to be seen.
    have past : bytes.length ≤ place - address := by omega
    rw [List.getElem?_eq_none past, Option.getD_none]
  · rfl

/-- A byte is read where it stands. -/
theorem read_eq_ok_iff {memory : Memory} {address : Nat} {byte : UInt8} :
    memory.read address = .ok byte ↔ memory.cells[address]? = some byte := by
  -- The check is whether there is a byte at the address.
  unfold read
  split
  · rename_i inside
    rw [Vector.getElem?_eq_getElem inside, Except.ok.injEq, Option.some.injEq]
  · rename_i beyond
    simp [Vector.getElem?_eq_none (Nat.le_of_not_lt beyond)]

/-- Outside memory there is no byte to be read. -/
theorem read_eq_error_iff {memory : Memory} {address : Nat} {fault : Fault} :
    memory.read address = .error fault ↔
      memorySize ≤ address ∧ fault = .outOfBounds .memory address := by
  rw [← Nat.not_lt]
  exact dependent_check_eq_error_iff

/-- There is a byte to be read at every address of memory. -/
theorem exists_read_iff {memory : Memory} {address : Nat} :
    (∃ byte, memory.read address = .ok byte) ↔ address < memorySize := by
  -- A read that does not fail has a byte to give.
  rw [exists_ok_iff fun _ => read_eq_error_iff, Nat.not_le]

/-- What is read at an address is the byte that stands there, if there is one. -/
theorem toOption_read (memory : Memory) (address : Nat) :
    (memory.read address).toOption = memory.cells[address]? := by
  -- Both have something to tell at the addresses of memory.
  by_cases inside : address < memorySize
  · rw [read, dif_pos inside, Vector.getElem?_eq_getElem inside]
    rfl
  · rw [read, dif_neg inside, Vector.getElem?_eq_none (Nat.not_lt.mp inside)]
    rfl

/-- Where two memories have the same byte, or none, the same is read. -/
theorem read_congr {memory other : Memory} {address : Nat}
    (same : ∀ inside : address < memorySize, other.cells[address] = memory.cells[address]) :
    other.read address = memory.read address := by
  by_cases inside : address < memorySize
  · rw [read, read, dif_pos inside, dif_pos inside, same inside]
  · -- Outside memory both are refused for the same address.
    rw [read, read, dif_neg inside, dif_neg inside]

/-- What is laid over memory is read at its own place. -/
theorem read_overlay_inside (memory : Memory) {address offset : Nat} {bytes : List UInt8}
    {byte : UInt8} (fits : Fits address bytes.length) (listed : bytes[offset]? = some byte) :
    (Memory.mk (overlay memory.cells address bytes)).read (address + offset) = .ok byte := by
  -- A byte of the list has a place in its range, and that is in memory.
  obtain ⟨before, _⟩ := List.getElem?_eq_some_iff.mp listed
  have within : address + bytes.length ≤ memorySize := fits
  have inside : address + offset < memorySize := by omega
  rw [read, dif_pos inside, getElem_overlay, if_pos (Nat.le_add_right address offset),
    Nat.add_sub_cancel_left, listed, Option.getD_some]

/-- What is laid over memory is not read outside of its range. -/
theorem read_overlay_outside (memory : Memory) {address place : Nat} {bytes : List UInt8}
    (outside : place < address ∨ address + bytes.length ≤ place) :
    (Memory.mk (overlay memory.cells address bytes)).read place = memory.read place :=
  read_congr fun inside => getElem_overlay_outside bytes memory.cells inside outside

/-- A word is made of the bytes at its address and the one after it. -/
theorem fetch_eq_ok_iff {memory : Memory} {address : Nat} {word : UInt16} :
    memory.fetch address = .ok word ↔ ∃ high low, memory.read address = .ok high ∧
      memory.read (address + 1) = .ok low ∧ word = wordOf high low := by
  simp only [read_eq_ok_iff]
  unfold fetch
  split
  · -- With room for two bytes both are there.
    rename_i fits
    have within : address + 2 ≤ memorySize := fits
    rw [Vector.getElem?_eq_getElem (by omega), Vector.getElem?_eq_getElem (by omega)]
    -- The high byte is the first one.
    constructor
    · intro fetched
      cases fetched
      exact ⟨_, _, rfl, rfl, rfl⟩
    · rintro ⟨high, low, first, second, rfl⟩
      cases first
      cases second
      rfl
  · -- The second byte is not in memory.
    rename_i beyond
    have past : ¬ address + 2 ≤ memorySize := beyond
    have absent : memory.cells[address + 1]? = none := Vector.getElem?_eq_none (by omega)
    simp [absent]

/-- A word that runs past the end of memory is refused like a range of two bytes. -/
theorem fetch_eq_error_iff {memory : Memory} {address : Nat} {fault : Fault} :
    memory.fetch address = .error fault ↔
      ¬ Fits address 2 ∧ fault = rangeFault address 2 :=
  dependent_check_eq_error_iff

/-- Reading a range succeeds when it fits, and brings the bytes between its ends. -/
theorem slice_eq_ok_iff {memory : Memory} {address length : Nat} {bytes : List UInt8} :
    memory.slice address length = .ok bytes ↔ Fits address length ∧
      bytes = (memory.cells.extract address (address + length)).toList :=
  check_eq_ok_iff

/-- A range is read byte by byte. -/
theorem getElem?_slice {memory : Memory} {address length : Nat} {bytes : List UInt8}
    (sliced : memory.slice address length = .ok bytes) (offset : Nat) :
    bytes[offset]? = if offset < length then memory.cells[address + offset]? else none := by
  -- A slice that fits is cut out of the cells as a whole.
  obtain ⟨fits, rfl⟩ := slice_eq_ok_iff.mp sliced
  have within : address + length ≤ memorySize := fits
  rw [Vector.getElem?_toList, Vector.getElem?_extract]
  split <;> split <;> first | rfl | omega

/-- The bytes of a range are those that are read at its addresses. -/
theorem getElem?_slice_eq_some_iff {memory : Memory} {address length : Nat} {bytes : List UInt8}
    (sliced : memory.slice address length = .ok bytes) {offset : Nat} {byte : UInt8} :
    bytes[offset]? = some byte ↔ offset < length ∧ memory.read (address + offset) = .ok byte := by
  rw [getElem?_slice sliced, read_eq_ok_iff]
  split
  · rename_i inside
    exact (and_iff_right inside).symm
  · -- Behind the range nothing was read.
    rename_i beyond
    simp [beyond]

/-- A range that was read has as many bytes as were asked for. -/
theorem length_slice {memory : Memory} {address length : Nat} {bytes : List UInt8}
    (sliced : memory.slice address length = .ok bytes) : bytes.length = length := by
  -- Its end is in memory, so nothing is missing from it.
  obtain ⟨fits, rfl⟩ := slice_eq_ok_iff.mp sliced
  have within : address + length ≤ memorySize := fits
  rw [Vector.length_toList]
  omega

/-- A program in place keeps all below its start and leaves zeros after its end. -/
theorem getElem_install (cells : Vector UInt8 memorySize) (rom : Bytes) (address : Nat)
    (inside : address < memorySize) :
    (install cells rom)[address] =
      if address < programStart then cells[address]
      else (rom.get? (address - programStart)).getD 0 := by
  -- Each cell is told by its own address.
  simp only [install, Vector.getElem_ofFn]
  rfl

/-- A program that fits is put in place. -/
theorem load_of_fits (memory : Memory) {rom : Bytes} (fits : rom.size ≤ maxRomSize) :
    memory.load rom = { state := ⟨install memory.cells rom⟩ } := if_pos fits

/-- A program that does not fit is refused before memory is touched. -/
theorem load_of_large (memory : Memory) {rom : Bytes} (large : maxRomSize < rom.size) :
    memory.load rom = { state := memory, failure := some (.romTooLarge rom.size) } :=
  if_neg (Nat.not_le_of_lt large)

/-- An access at the index is told by its last address, since no word comes near the limit. -/
theorem rangeFault_word (address : UInt16) {length : Nat} (short : length ≤ 0x1000) :
    rangeFault address.toNat length = .outOfBounds .memory (address.toNat + length - 1) := by
  -- The sum of a word and a length of memory can always be counted.
  have small := address.toNat_lt
  rw [rangeFault, lastPosition, Nat.min_eq_left]
  simp only [maxPosition]
  omega

/-- Reading a range fails when it does not fit, and names its last address. -/
theorem slice_eq_error_iff (memory : Memory) {address length : Nat} {fault : Fault} :
    memory.slice address length = .error fault ↔
      ¬ Fits address length ∧ fault = rangeFault address length :=
  check_eq_error_iff

/-- A list of bytes that fits is laid over memory. -/
theorem poke_of_fits (memory : Memory) {address : Nat} {bytes : List UInt8}
    (fits : Fits address bytes.length) :
    memory.poke address bytes = { state := ⟨overlay memory.cells address bytes⟩ } := if_pos fits

/-- A list of bytes that does not fit is refused before the first of them is written. -/
theorem poke_of_beyond (memory : Memory) {address : Nat} {bytes : List UInt8}
    (beyond : ¬ Fits address bytes.length) : memory.poke address bytes =
      { state := memory, failure := some (rangeFault address bytes.length) } := if_neg beyond

/-- A sequence that fits is laid over memory. -/
theorem writeAll_of_fits (memory : Memory) {address : Nat} {bytes : Bytes}
    (fits : Fits address bytes.size) :
    memory.writeAll address bytes = { state := ⟨overlay memory.cells address bytes.toList⟩ } :=
  if_pos fits

/-- A sequence that does not fit is refused before the first of its bytes is written. -/
theorem writeAll_of_beyond (memory : Memory) {address : Nat} {bytes : Bytes}
    (beyond : ¬ Fits address bytes.size) : memory.writeAll address bytes =
      { state := memory, failure := some (rangeFault address bytes.size) } := if_neg beyond

/-- One byte is laid over memory like a list of one. -/
theorem write_of_lt (memory : Memory) {address : Nat} (inside : address < memorySize)
    (value : UInt8) :
    memory.write address value = { state := ⟨overlay memory.cells address [value]⟩ } := by
  -- Both ways one cell is set.
  have single : memory.cells.set address value = overlay memory.cells address [value] := by
    ext place placed
    simp [overlay, Vector.getElem_set, Vector.getElem_setIfInBounds]
  rw [write, dif_pos inside, single]

/-- One byte is refused where there is no memory. -/
theorem write_of_ge (memory : Memory) {address : Nat} (outside : memorySize ≤ address)
    (value : UInt8) : memory.write address value =
      { state := memory, failure := some (.outOfBounds .memory address) } :=
  dif_neg (Nat.not_lt_of_le outside)

end ChipEight.Memory
