import ChipEight.Proofs.Memory.Access

/-! The position that the fault of a refused range names, and where that of one byte differs. -/

namespace ChipEight.Memory

/-- A range is refused to whoever asks for it, and each fault names the same position. -/
structure RefusedAt (memory : Memory) (address length : UInt64) (position : Nat) : Prop where
  stop : rangeEnd address length = .error (.outOfBounds .memory position)
  slice : memory.slice address.toNat length.toNat = .error (.outOfBounds .memory position)
  overwrite : ∀ byte, memory.writeAll address.toNat ⟨length.toNat, byte⟩ =
    { state := memory, failure := some (.outOfBounds .memory position) }

variable {memory : Memory} {address length : Nat}

/-- The last place of a range is named exactly as long as the end behind it can be counted. -/
theorem lastPosition_of_counted (counted : address + length ≤ maxPosition) :
    lastPosition address length = address + length - 1 := by
  rw [lastPosition, Nat.min_eq_left counted]

/-- An end that cannot be counted is cut before one is taken off, so all these faults are alike. -/
theorem lastPosition_of_uncounted (large : maxPosition ≤ address + length) :
    lastPosition address length = maxPosition - 1 := by
  rw [lastPosition, Nat.min_eq_right large]

/-- A range that does not fit is refused at the last place that could be counted. -/
theorem refusedAt_lastPosition (memory : Memory) {address length : UInt64}
    (beyond : ¬ Fits address.toNat length.toNat) :
    memory.RefusedAt address length (lastPosition address.toNat length.toNat) := by
  -- All three checks come to the fault of the range.
  constructor
  · rw [rangeEnd_eq, if_neg beyond, rangeFault]
  · exact memory.slice_eq_error_iff.mpr ⟨beyond, rfl⟩
  · intro byte
    exact memory.writeAll_of_beyond beyond

/-- A range of one byte holds the byte that is read at its address. -/
theorem slice_one_of_lt (inside : address < memorySize) :
    memory.slice address 1 = (memory.read address).map fun byte => [byte] := by
  have fits : Fits address 1 := inside
  have sliced : memory.slice address 1 = .ok _ := if_pos fits
  rw [sliced, read, dif_pos inside, Except.map]
  -- Only the first place of the range holds a byte.
  refine congrArg Except.ok (List.ext_getElem? fun place => ?_)
  rw [getElem?_slice sliced]
  by_cases first : place = 0
  · simp [first, inside]
  · simp [first]

/-- Outside memory a range of one byte is refused like the byte if the place behind it counts. -/
theorem slice_one_of_ge (outside : memorySize ≤ address) (counted : address + 1 ≤ maxPosition) :
    memory.slice address 1 = (memory.read address).map fun byte => [byte] := by
  -- The one byte is past the end, so the range has no room for it.
  have beyond : ¬ Fits address 1 := Nat.not_le.mpr (Nat.lt_succ_of_le outside)
  rw [slice, if_neg beyond, read, dif_neg (Nat.not_lt.mpr outside), rangeFault,
    lastPosition_of_counted counted]
  rfl

/--
The fault of a refused range names its last place as long as the end behind that place is a number
of sixty-four bits. Every range that goes further is told by the last number but one, so a range of
one byte is read and refused like the byte at its address, except for the very last address, where
the byte is told by the address and the range by the one before it.
-/
theorem refused_range_position (memory : Memory) :
    (∀ address length : UInt64, 0x1000 < address.toNat + length.toNat →
      (address.toNat + length.toNat ≤ 0xFFFFFFFFFFFFFFFF →
        memory.RefusedAt address length (address.toNat + length.toNat - 1)) ∧
      (0xFFFFFFFFFFFFFFFF < address.toNat + length.toNat →
        memory.RefusedAt address length 0xFFFFFFFFFFFFFFFE)) ∧
    (∀ address : UInt64, address ≠ 0xFFFFFFFFFFFFFFFF →
      memory.slice address.toNat 1 = (memory.read address.toNat).map fun byte => [byte]) ∧
    memory.read 0xFFFFFFFFFFFFFFFF = .error (.outOfBounds .memory 0xFFFFFFFFFFFFFFFF) ∧
    memory.RefusedAt 0xFFFFFFFFFFFFFFFF 1 0xFFFFFFFFFFFFFFFE := by
  -- What is refused is told by the last place that could be counted.
  have ranges : ∀ address length : UInt64, 0x1000 < address.toNat + length.toNat →
      memory.RefusedAt address length (lastPosition address.toNat length.toNat) := by
    intro address length past
    exact memory.refusedAt_lastPosition (Nat.not_le.mpr past)
  refine ⟨?_, ?_, ?_, ?_⟩
  · intro address length past
    have refused := ranges address length past
    constructor
    · intro counted
      rwa [lastPosition_of_counted counted] at refused
    · intro large
      rwa [lastPosition_of_uncounted (Nat.le_of_lt large)] at refused
  · intro address apart
    by_cases inside : address.toNat < memorySize
    · exact slice_one_of_lt inside
    · -- Every address but the last one has a place behind it.
      apply slice_one_of_ge (by omega)
      have small := address.toNat_lt
      have different : address.toNat ≠ 0xFFFFFFFFFFFFFFFF := fun same =>
        apart (UInt64.toNat_inj.mp same)
      simp only [maxPosition]
      omega
  · -- A byte is always told by its own address.
    exact read_eq_error_iff.mpr ⟨by decide, rfl⟩
  · exact ranges 0xFFFFFFFFFFFFFFFF 1 (by decide)

/-- A byte before the last address is told alike both ways, and a range around the end is not. -/
theorem refused_range_position_last :
    (fresh.slice 0xFFFFFFFFFFFFFFFE 1 = .error (.outOfBounds .memory 0xFFFFFFFFFFFFFFFE) ∧
      fresh.read 0xFFFFFFFFFFFFFFFE = .error (.outOfBounds .memory 0xFFFFFFFFFFFFFFFE) ∧
      fresh.slice 0xFFFFFFFFFFFFFFFE 1 = (fresh.read 0xFFFFFFFFFFFFFFFE).map fun byte => [byte]) ∧
    (fresh.read 0xFFFFFFFFFFFFFFFF = .error (.outOfBounds .memory 0xFFFFFFFFFFFFFFFF) ∧
      fresh.slice 0xFFFFFFFFFFFFFFFF 1 = .error (.outOfBounds .memory 0xFFFFFFFFFFFFFFFE) ∧
      fresh.slice 0xFFFFFFFFFFFFFFFF 2 = .error (.outOfBounds .memory 0xFFFFFFFFFFFFFFFE)) := by
  obtain ⟨ranges, bytes, last, around⟩ := refused_range_position fresh
  -- The first range ends just where counting ends, and the others go further.
  have before := (ranges 0xFFFFFFFFFFFFFFFE 1 (by decide)).1 (by decide)
  have wrapped := (ranges 0xFFFFFFFFFFFFFFFF 2 (by decide)).2 (by decide)
  have alike := bytes 0xFFFFFFFFFFFFFFFE (by decide)
  exact ⟨⟨before.slice, read_eq_error_iff.mpr ⟨by decide, rfl⟩, alike⟩, last, around.slice,
    wrapped.slice⟩

end ChipEight.Memory
