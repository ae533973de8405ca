import ChipEight.Memory.Laws
import ChipEight.Proofs.Except

/-! Every way into memory works on the same cells, and refuses what leaves them. -/

namespace ChipEight.Memory

section Host

/-- The sum of two numbers of sixty-four bits, if it is one. -/
def checkedSum (number other : UInt64) : Option UInt64 :=
  -- A sum that wraps around comes out below what it was made of.
  if number + other < number then none else some (number + other)

/-- The sum of two numbers of sixty-four bits, or the largest of them where it is none. -/
def cutSum (number other : UInt64) : UInt64 :=
  (checkedSum number other).getD 0xFFFFFFFFFFFFFFFF

/-- One less than a number, or zero where there is nothing to take from. -/
def cutPred (number : UInt64) : UInt64 := if number = 0 then 0 else number - 1

/-- The end of a range as a number of sixty-four bits, or the fault that tells of its last place. -/
def rangeEnd (address length : UInt64) : Except Fault UInt64 :=
  let fault := Fault.outOfBounds .memory (cutPred (cutSum address length)).toNat
  match checkedSum address length with
  | some stop => if stop ≤ 0x1000 then .ok stop else .error fault
  | none => .error fault

variable {number other : UInt64}

/-- A sum is told apart from one that wrapped around. -/
theorem checkedSum_eq (number other : UInt64) :
    checkedSum number other =
      if number.toNat + other.toNat ≤ maxPosition then some (number + other) else none := by
  have small := number.toNat_lt
  have small' := other.toNat_lt
  -- A sum that wraps around has lost the limit, which is more than either number.
  have wraps : number + other < number ↔ ¬ number.toNat + other.toNat ≤ maxPosition := by
    rw [UInt64.lt_iff_toNat_lt, UInt64.toNat_add]
    simp only [maxPosition]
    omega
  rw [checkedSum]
  simp only [wraps]
  split <;> simp_all

/-- A sum is cut to the largest number. -/
theorem toNat_cutSum (number other : UInt64) :
    (cutSum number other).toNat = min (number.toNat + other.toNat) maxPosition := by
  rw [cutSum, checkedSum_eq]
  -- A sum that can be counted is below the limit, and any other is cut to it.
  split
  · rename_i fits
    rw [Option.getD_some, UInt64.toNat_add, Nat.min_eq_left fits]
    simp only [maxPosition] at fits
    omega
  · rename_i large
    rw [Nat.min_eq_right (by omega)]
    rfl

/-- One is taken from a number as long as there is something to take it from. -/
theorem toNat_cutPred (number : UInt64) : (cutPred number).toNat = number.toNat - 1 := by
  unfold cutPred
  split
  · rename_i zero
    rw [zero]
    rfl
  · -- What is at least one does not wrap around when one is taken off.
    rename_i positive
    have above : number.toNat ≠ 0 := fun zero => positive (UInt64.toNat_inj.mp zero)
    have least : 1 ≤ number := by
      rw [UInt64.le_iff_toNat_le]
      exact Nat.one_le_iff_ne_zero.mpr above
    exact UInt64.toNat_sub_of_le number 1 least

/-- Numbers of sixty-four bits find the same ends and the same faults as exact ones do. -/
theorem rangeEnd_eq (address length : UInt64) :
    rangeEnd address length =
      if Fits address.toNat length.toNat then .ok (address + length)
      else .error (rangeFault address.toNat length.toNat) := by
  -- The position in the fault is cut in the same two places.
  have fault : Fault.outOfBounds .memory (cutPred (cutSum address length)).toNat =
      rangeFault address.toNat length.toNat := by
    rw [toNat_cutPred, toNat_cutSum, rangeFault, lastPosition]
  simp only [rangeEnd, fault, checkedSum_eq]
  by_cases counted : address.toNat + length.toNat ≤ maxPosition
  · -- A sum that can be counted is compared with the size of memory as it is.
    have inside : address + length ≤ 0x1000 ↔ Fits address.toNat length.toNat := by
      rw [UInt64.le_iff_toNat_le, UInt64.toNat_add, Nat.mod_eq_of_lt]
      · rfl
      · simp only [maxPosition] at counted
        omega
    simp only [if_pos counted, inside]
  · -- A sum that cannot be counted is far outside memory.
    have beyond : ¬ Fits address.toNat length.toNat := by
      intro fits
      have within : address.toNat + length.toNat ≤ 0x1000 := fits
      simp only [maxPosition] at counted
      omega
    rw [if_neg counted, if_neg beyond]

end Host

/-- A fault of memory that tells of a position at or past its limit. -/
def PastLimit (fault : Fault) : Prop :=
  ∃ position, fault = .outOfBounds .memory position ∧ Space.memory.limit ≤ position

/-- What is read at an address, as a byte, as a range and as a word. -/
structure Readings (memory : Memory) (address length : Nat) : Prop where
  /-- There is a byte at every address of memory. -/
  read : (∃ byte, memory.read address = .ok byte) ↔ address ≤ 0xFFF
  /-- A range can be read when it ends in memory. -/
  slice : (∃ bytes, memory.slice address length = .ok bytes) ↔ address + length ≤ 0x1000
  /-- A word can be read when its second byte is in memory. -/
  fetch : (∃ word, memory.fetch address = .ok word) ↔ address ≤ 0xFFE
  /-- A range has as many bytes as were asked for, each of which is read at its own address. -/
  sliced : ∀ bytes, memory.slice address length = .ok bytes → bytes.length = length ∧
    ∀ offset byte, bytes[offset]? = some byte → memory.read (address + offset) = .ok byte
  /-- A word is made of two bytes, the high one first. -/
  fetched : ∀ word, memory.fetch address = .ok word → ∃ high low,
    memory.read address = .ok high ∧ memory.read (address + 1) = .ok low ∧
      word.toNat = 256 * high.toNat + low.toNat
  /-- What cannot be read is told by a position that memory does not have. -/
  refused : ∀ fault, memory.read address = .error fault ∨
    memory.slice address length = .error fault ∨ memory.fetch address = .error fault →
      PastLimit fault

/-- What comes of an attempt to put bytes in place of those that stand from an address on. -/
structure Overwrites (memory : Memory) (address : Nat) (bytes : Bytes)
    (outcome : Outcome Fault Memory) : Prop where
  /-- It is done when the bytes end in memory. -/
  succeeds : outcome.failure = none ↔ address + bytes.size ≤ 0x1000
  /-- The new bytes are read in their range, and the old ones everywhere else. -/
  seen : outcome.failure = none → ∀ place, outcome.state.read place =
    if address ≤ place ∧ place < address + bytes.size then .ok (bytes.byte (place - address))
    else memory.read place
  /-- If it is not done, then not even in part, and the fault tells of a position past the limit. -/
  refused : ∀ fault, outcome.failure = some fault → outcome.state = memory ∧ PastLimit fault

/-- The fault of a range that does not fit tells of a position past the limit. -/
theorem pastLimit_rangeFault {address length : Nat} (beyond : ¬ Fits address length) :
    PastLimit (rangeFault address length) := by
  have past : ¬ address + length ≤ 0x1000 := beyond
  refine ⟨lastPosition address length, rfl, ?_⟩
  -- Even the largest position that can be told is far past the limit.
  simp only [Space.limit, lastPosition, maxPosition]
  omega

section Places

variable {memory : Memory} {address : Nat}

/-- Bytes that are laid over memory are read in their range, and the old ones everywhere else. -/
theorem read_overlay (bytes : Bytes) (fits : Fits address bytes.size) (place : Nat) :
    (Memory.mk (overlay memory.cells address bytes.toList)).read place =
      if address ≤ place ∧ place < address + bytes.size then .ok (bytes.byte (place - address))
      else memory.read place := by
  have within : address + bytes.size ≤ memorySize := fits
  by_cases inside : place < memorySize
  · simp only [read, dif_pos inside, getElem_overlay, Bytes.getElem?_toList,
      Bytes.get?]
    -- The range starts at the address and is as long as the sequence.
    split
    · rename_i behind
      by_cases before : place < address + bytes.size
      · rw [if_pos (by omega), if_pos ⟨behind, before⟩]
        rfl
      · rw [if_neg (by omega), if_neg (by omega)]
        rfl
    · rw [if_neg (by omega)]
  · -- The range ends in memory, so the place is not in it.
    rw [if_neg (by omega), read, read, dif_neg inside, dif_neg inside]

/-- Bytes that were laid over memory are in place as a whole. -/
theorem overwrites_of_fits {bytes : Bytes} (fits : Fits address bytes.size) :
    memory.Overwrites address bytes
      { state := ⟨overlay memory.cells address bytes.toList⟩ } where
  succeeds := iff_of_true rfl fits
  seen _ := read_overlay bytes fits
  refused _ failed := by cases failed

/-- Bytes that were refused with memory as it was are not in place, not even in part. -/
theorem overwrites_of_beyond {bytes : Bytes} (beyond : ¬ Fits address bytes.size) {fault : Fault}
    (past : PastLimit fault) :
    memory.Overwrites address bytes { state := memory, failure := some fault } where
  succeeds := iff_of_false nofun beyond
  seen succeeded := by cases succeeded
  refused cause failed := by
    cases failed
    exact ⟨rfl, past⟩

end Places

variable (memory : Memory) (address : Nat)

/-- A byte that stands outside memory is past its limit. -/
theorem pastLimit_byte {address : Nat} (beyond : memorySize ≤ address) :
    PastLimit (.outOfBounds .memory address) := ⟨address, rfl, beyond⟩

/-- Bytes, ranges and words are read from the same cells. -/
theorem readings (length : Nat) : memory.Readings address length where
  read := (exists_ok_iff fun _ => read_eq_error_iff).trans (by simp only [memorySize]; omega)
  slice := (exists_ok_iff fun _ => slice_eq_error_iff memory).trans Decidable.not_not
  fetch := by
    rw [exists_ok_iff fun _ => fetch_eq_error_iff, Decidable.not_not]
    simp only [Fits, memorySize]
    omega
  sliced bytes done :=
    ⟨length_slice done, fun _ _ listed => ((getElem?_slice_eq_some_iff done).mp listed).2⟩
  fetched word done := by
    obtain ⟨high, low, first, second, rfl⟩ := fetch_eq_ok_iff.mp done
    refine ⟨high, low, first, second, ?_⟩
    -- Two bytes are too few for a word to overflow.
    have above := high.toNat_lt
    have below := low.toNat_lt
    simp only [wordOf, UInt16.toNat_ofNat']
    omega
  -- Each of the three ways is refused by a check of its own.
  refused fault failed := by
    rcases failed with failed | failed | failed
    · obtain ⟨beyond, rfl⟩ := read_eq_error_iff.mp failed
      exact pastLimit_byte beyond
    · obtain ⟨beyond, rfl⟩ := (slice_eq_error_iff memory).mp failed
      exact pastLimit_rangeFault beyond
    · obtain ⟨beyond, rfl⟩ := fetch_eq_error_iff.mp failed
      exact pastLimit_rangeFault beyond

/-- One byte is put in place like a sequence of one. -/
theorem overwrites_write (value : UInt8) :
    memory.Overwrites address (.replicate 1 value) (memory.write address value) := by
  -- A range of one byte fits when its address is in memory.
  rcases Nat.lt_or_ge address memorySize with inside | outside
  · rw [memory.write_of_lt inside]
    have fits : Fits address (Bytes.replicate 1 value).size := inside
    exact overwrites_of_fits fits
  · rw [memory.write_of_ge outside]
    exact overwrites_of_beyond (Nat.not_le_of_lt (Nat.lt_succ_of_le outside))
      (pastLimit_byte outside)

/-- A sequence is put in place as a whole. -/
theorem overwrites_writeAll (bytes : Bytes) :
    memory.Overwrites address bytes (memory.writeAll address bytes) := by
  -- The range is checked as a whole, and nothing was written before.
  by_cases fits : Fits address bytes.size
  · rw [memory.writeAll_of_fits fits]
    exact overwrites_of_fits fits
  · rw [memory.writeAll_of_beyond fits]
    exact overwrites_of_beyond fits (pastLimit_rangeFault fits)

/-- A list of bytes is put in place like the sequence of them. -/
theorem poke_eq_writeAll (bytes : List UInt8) :
    memory.poke address bytes = memory.writeAll address (.ofList bytes) := by
  rw [poke, writeAll, Bytes.toList_ofList]
  rfl

/-- A range is read from its address to the end that was found with sixty-four bits. -/
theorem slice_eq_rangeEnd (address length : UInt64) :
    memory.slice address.toNat length.toNat = (rangeEnd address length).map fun stop =>
      (memory.cells.extract address.toNat stop.toNat).toList := by
  rw [slice, rangeEnd_eq]
  split
  · rename_i fits
    have within : address.toNat + length.toNat ≤ 0x1000 := fits
    -- The end is an exact sum, since it is in memory.
    have stop : (address + length).toNat = address.toNat + length.toNat := by
      rw [UInt64.toNat_add]
      omega
    rw [Except.map, stop]
  · rfl

/-- A range is overwritten when the end that was found with sixty-four bits is in memory. -/
theorem writeAll_eq_rangeEnd (address length : UInt64) (byte : Nat → UInt8) :
    memory.writeAll address.toNat ⟨length.toNat, byte⟩ =
      match rangeEnd address length with
      | .ok _ =>
        { state := ⟨overlay memory.cells address.toNat (Bytes.toList ⟨length.toNat, byte⟩)⟩ }
      | .error fault => { state := memory, failure := some fault } := by
  rw [writeAll, rangeEnd_eq]
  -- Whether the end was found is the same question as whether the range fits.
  split <;> rfl

/--
Whatever is read or put into memory, as a byte, as a range or as a word, it is the same cells that
are read and changed, and what leaves them is refused as a whole. Whether a range fits is decided
alike by exact sums and by sums of sixty-four bits that could wrap around.
-/
theorem accesses_share_cells (memory : Memory) :
    (∀ address length, memory.Readings address length) ∧
    (∀ address value, memory.Overwrites address (.replicate 1 value)
      (memory.write address value)) ∧
    (∀ address bytes, memory.Overwrites address bytes
      (memory.writeAll address bytes)) ∧
    (∀ address bytes, memory.Overwrites address (.ofList bytes)
      (memory.poke address bytes)) ∧
    ∀ address length : UInt64,
      (memory.slice address.toNat length.toNat = (rangeEnd address length).map fun stop =>
        (memory.cells.extract address.toNat stop.toNat).toList) ∧
      ∀ byte, memory.writeAll address.toNat ⟨length.toNat, byte⟩ =
        match rangeEnd address length with
        | .ok _ =>
          { state := ⟨overlay memory.cells address.toNat (Bytes.toList ⟨length.toNat, byte⟩)⟩ }
        | .error fault => { state := memory, failure := some fault } := by
  refine ⟨memory.readings, memory.overwrites_write, memory.overwrites_writeAll, ?_, ?_⟩
  · intro address bytes
    rw [poke_eq_writeAll]
    exact memory.overwrites_writeAll address (.ofList bytes)
  · intro address length
    exact ⟨memory.slice_eq_rangeEnd address length, memory.writeAll_eq_rangeEnd address length⟩

/-- A range whose end wraps around is refused, and the last byte of memory can be written. -/
theorem accesses_share_cells_last :
    (¬ ∃ bytes, fresh.slice 0xFFFFFFFFFFFFFFFF 2 = .ok bytes) ∧
      rangeEnd 0xFFFFFFFFFFFFFFFF 2 = .error (.outOfBounds .memory 0xFFFFFFFFFFFFFFFE) ∧
      (fresh.write 0xFFF 7).state.read 0xFFF = .ok 7 ∧
      (fresh.write 0xFFF 7).state.read 0x1000 =
        .error (.outOfBounds .memory 0x1000) := by
  obtain ⟨reads, writes, _⟩ := accesses_share_cells fresh
  have written := writes 0xFFF 7
  have done := written.succeeds.mpr (by decide)
  refine ⟨?_, rfl, written.seen done 0xFFF, written.seen done 0x1000⟩
  -- The exact sum is more than memory has.
  rw [(reads 0xFFFFFFFFFFFFFFFF 2).slice]
  decide

end ChipEight.Memory
