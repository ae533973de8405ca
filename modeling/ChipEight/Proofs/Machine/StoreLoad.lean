import ChipEight.Proofs.Machine.Footprint
import ChipEight.Proofs.Machine.Reachable

/-! Registers that were stored are loaded again, whatever happens to the rest of the machine. -/

namespace ChipEight.Machine

open Nibbles Instruction

/-- The words that store at the index, with the number of bytes that they store. -/
inductive StoreLength : UInt16 → Nat → Prop where
  | decimal (x : Fin 16) : StoreLength (toWord ⟨0xF, x, 0x3, 0x3⟩) 3
  | registers (x : Fin 16) : StoreLength (toWord ⟨0xF, x, 0x5, 0x5⟩) (x + 1)

/-- The next word does not store between two addresses. -/
def SparesRange (first last : Nat) (machine : Machine) : Prop :=
  ∀ length, StoreLength machine.nextWord length →
    last < machine.index.toNat ∨ machine.index.toNat + length ≤ first

/-- The machines that one comes to while nothing is stored between two addresses. -/
inductive Undisturbed (first last : Nat) (start : Machine) : Machine → Prop where
  /-- Nothing happened. -/
  | nothing : Undisturbed first last start start
  /-- A cycle was carried out. If it did not fail, it stored nothing there. -/
  | cycle {machine : Machine} (before : Undisturbed first last start machine)
      (offered : Offer)
      (spares : machine.halted = false → (machine.cycle offered).failure = none →
        machine.SparesRange first last) :
    Undisturbed first last start (machine.cycle offered).state
  /-- A host changed anything but memory. -/
  | host {machine other : Machine} (before : Undisturbed first last start machine)
      (same : other.memory = machine.memory) : Undisturbed first last start other

/-- What a cycle that stores registers up to one of them leaves of a machine. -/
structure StoredRegisters (machine : Machine) (x : Fin 16) (after : Machine) : Prop where
  /-- It fits in memory. -/
  fits : machine.index.toNat + x ≤ 0xFFF
  /-- Registers, index and all else but memory stay as they were. -/
  frame : after = { machine.noted with memory := after.memory, pc := machine.pc + 2 }
  /-- The registers stand at the index, one after the other. -/
  placed : ∀ y ≤ x, after.memory.read (machine.index.toNat + y) = .ok (machine.reg y)
  /-- Outside of their range nothing changes. -/
  kept : ∀ address, address < machine.index.toNat ∨ machine.index.toNat + x < address →
    after.memory.read address = machine.memory.read address

/-- What comes of a cycle that loads registers up to one of them which another machine stored. -/
structure RestoredRegisters (machine last : Machine) (y : Fin 16)
    (outcome : Outcome Fault Machine) : Prop where
  /-- It does not fail. -/
  succeeds : outcome.failure = none
  /-- Index, memory, screen and all else but the registers stay as they were. -/
  frame : outcome.state =
    { last.noted with registers := outcome.state.registers, pc := last.pc + 2 }
  /-- The registers up to the one that is named are those that were stored. -/
  restored : ∀ z ≤ y, outcome.state.reg z = machine.reg z
  /-- The others are left alone. -/
  kept : ∀ z, y < z → outcome.state.reg z = last.reg z

variable {machine start later last after : Machine} {x y : Fin 16} {offered : Offer}

/-- A program goes on behind the word that stored. -/
theorem StoredRegisters.pc_eq (stored : machine.StoredRegisters x after) :
    after.pc = machine.pc + 2 := by
  rw [stored.frame]

/-- Storing does not move the index. -/
theorem StoredRegisters.index_eq (stored : machine.StoredRegisters x after) :
    after.index = machine.index := by
  rw [stored.frame]
  rfl

/-- A word that spares a range changes none of its bytes. -/
theorem SparesRange.untouched {first stop : Nat} (spares : machine.SparesRange first stop)
    (address : Fin memorySize) (near : first ≤ address) (far : address ≤ stop) :
    ¬ MayChange machine.index machine.nextWord (.byte address) := by
  intro may
  unfold SparesRange at spares
  -- The two rows of the table that change bytes are those of the words that store.
  generalize machine.nextWord = word at spares may
  cases may with
  | storeDecimal x _ above below =>
    have apart := spares 3 (.decimal x)
    omega
  | storeRegisters x _ above below =>
    have apart := spares (x + 1) (.registers x)
    omega

/-- A cycle that stores nothing in a range leaves what is read there. -/
theorem read_cycle {first stop address : Nat} (machine : Machine) (offered : Offer)
    (spares : machine.halted = false → (machine.cycle offered).failure = none →
      machine.SparesRange first stop)
    (near : first ≤ address) (far : address ≤ stop) :
    (machine.cycle offered).state.memory.read address = machine.memory.read address := by
  -- The three outcomes of a cycle are nothing, a record and an effect.
  cases running : machine.halted with
  | true => rw [cycle, if_pos running]
  | false =>
    cases done : machine.attempt offered with
    | error fault =>
      -- A word that fails changes the record alone.
      rw [cycle_of_error running done]
      rfl
    | ok effect =>
      have cycled := cycle_of_ok running done
      have spared := spares running (by rw [cycled])
      rw [cycled]
      exact Memory.read_congr fun inside =>
        same_of_attempt done (spared.untouched ⟨address, inside⟩ near far)

/-- What is read in a range that nothing is stored to is what was read there at first. -/
theorem Undisturbed.read {first stop address : Nat}
    (undisturbed : Undisturbed first stop start later) (near : first ≤ address)
    (far : address ≤ stop) : later.memory.read address = start.memory.read address := by
  -- The bytes of the range are handed on from each machine to the one that comes of it.
  induction undisturbed with
  | nothing => rfl
  | cycle _ offered spares ih => exact (read_cycle _ offered spares near far).trans ih
  | host _ same ih =>
    rw [same]
    exact ih

/-- A register that is among the first ones is in their list at its own place. -/
theorem getElem?_take_registers (machine : Machine) (within : y ≤ x) :
    (machine.registers.toList.take (x + 1))[y.val]? = some (machine.reg y) := by
  -- Taking the first ones leaves each of them in its place.
  have before : y.val < x + 1 := Nat.lt_succ_of_le (Fin.le_def.mp within)
  rw [List.getElem?_take_of_lt before, Vector.getElem?_toList, Vector.getElem?_eq_getElem y.isLt]
  rfl

/-- A word that stores registers puts them in memory at the index, if they fit there. -/
theorem stored_of_cycle (running : machine.halted = false)
    (word : machine.nextWord = toWord ⟨0xF, x, 0x5, 0x5⟩)
    (succeeded : (machine.cycle offered).failure = none) :
    machine.StoredRegisters x (machine.cycle offered).state := by
  obtain ⟨effect, done, cycled⟩ := exists_effect_of_cycle running succeeded
  rw [cycled]
  rw [attempt, word, (Opcode.storeRegisters x).decode_eq] at done
  obtain ⟨fits, rfl⟩ := effect_stores_eq_ok rfl done
  -- There are as many bytes as registers up to the one that is named.
  have many := length_take_registers machine x
  constructor
  case fits =>
    have room : machine.index.toNat + (x + 1) ≤ 0x1000 := by
      rw [← many]
      exact fits
    omega
  case frame => rfl
  -- Each register is among the bytes in its own place.
  case placed =>
    intro y within
    exact Memory.read_overlay_inside _ fits (getElem?_take_registers machine within)
  -- A place outside of the registers is outside of the bytes.
  case kept =>
    intro address outside
    have apart : address < machine.index.toNat ∨
        machine.index.toNat + (machine.registers.toList.take (x + 1)).length ≤ address := by
      rw [many]
      omega
    exact Memory.read_overlay_outside _ apart

/-- A word that loads registers takes them from memory at the index, if they are read there. -/
theorem restored_of_cycle (running : last.halted = false)
    (word : last.nextWord = toWord ⟨0xF, y, 0x6, 0x5⟩)
    (placed : ∀ z ≤ y, last.memory.read (last.index.toNat + z) = .ok (machine.reg z)) :
    machine.RestoredRegisters last y (last.cycle offered) := by
  -- The last of the bytes is in memory, so all of them are.
  have inside := (Memory.exists_read_iff.mp ⟨_, placed y (Fin.le_refl y)⟩)
  have fits : Memory.Fits last.index.toNat (y + 1) := inside
  obtain ⟨bytes, sliced⟩ : ∃ bytes, last.memory.slice last.index.toNat (y + 1) = .ok bytes :=
    ⟨_, if_pos fits⟩
  have done : last.attempt offered = .ok { machine := last.underway.setRegisters bytes } := by
    have found : last.underway.memory.slice last.underway.index.toNat (y + 1) = .ok bytes := sliced
    rw [attempt, word, (Opcode.loadRegisters y).decode_eq, effect_loadRegisters, found]
    rfl
  -- A register for which there is a byte is set to it.
  have registers : ∀ z, (last.underway.setRegisters bytes).reg z =
      (bytes[z.val]?).getD (last.reg z) := by
    intro z
    simp only [reg, setRegisters, Fin.getElem_fin, Vector.getElem_ofFn,
      List.getD_eq_getElem?_getD]
    rfl
  rw [cycle_of_ok running done]
  constructor
  case succeeds => rfl
  case frame => rfl
  -- The byte of a register is the one that was read at its own place.
  case restored =>
    intro z within
    have byte := (Memory.getElem?_slice_eq_some_iff sliced).mpr
      ⟨Nat.lt_succ_of_le (Fin.le_def.mp within), placed z within⟩
    refine (registers z).trans ?_
    rw [byte, Option.getD_some]
  -- For registers beyond the named one there is no byte.
  case kept =>
    intro z beyond
    have past : ¬ z.val < y + 1 := Nat.not_lt.mpr (Fin.lt_def.mp beyond)
    refine (registers z).trans ?_
    rw [Memory.getElem?_slice sliced, if_neg past, Option.getD_none]

/--
Registers that a word stored are loaded again by a word with the same index, whatever was carried
out in between and whatever a host did meanwhile, if no word stored where they stand. It makes no
difference whether they stand in the midst of the program or of the font.
-/
theorem load_undoes_store (inside : machine.pc ≤ 0x0FFE)
    (word : machine.nextWord = toWord ⟨0xF, x, 0x5, 0x5⟩)
    (succeeded : (machine.cycle offered).failure = none) :
    machine.StoredRegisters x (machine.cycle offered).state ∧
    ∀ (last : Machine) (y : Fin 16) (again : Offer),
      Undisturbed machine.index.toNat (machine.index.toNat + x) (machine.cycle offered).state last →
      last.index = machine.index → last.pc ≤ 0x0FFE →
      last.nextWord = toWord ⟨0xF, y, 0x6, 0x5⟩ → y ≤ x →
      machine.RestoredRegisters last y (last.cycle again) := by
  have stored := stored_of_cycle (halted_eq_false_of_le inside) word succeeded
  refine ⟨stored, ?_⟩
  intro last y again undisturbed index inside' word' within
  refine restored_of_cycle (halted_eq_false_of_le inside') word' fun z before => ?_
  -- What was stored is still there.
  have reached : z ≤ x := Fin.le_trans before within
  have near := Fin.le_def.mp reached
  rw [index, undisturbed.read (by omega) (by omega)]
  exact stored.placed z reached

/-- A word that sets a register passes on to the next one and disturbs no range of memory. -/
theorem passes_setValue {y n : Fin 16} (offered : Offer) (first stop : Nat)
    (running : machine.halted = false) (word : machine.nextWord = toWord ⟨0x6, x, y, n⟩) :
    Undisturbed first stop machine (machine.cycle offered).state ∧
      (machine.cycle offered).state.index = machine.index ∧
      (machine.cycle offered).state.pc = machine.pc + 2 ∧
      (machine.cycle offered).state.reg x = byte ⟨0x6, x, y, n⟩ := by
  constructor
  · refine .cycle .nothing offered fun _ _ length stores => ?_
    -- Its family is not that of the words that store.
    rw [word] at stores
    generalize spelled : toWord ⟨0x6, x, y, n⟩ = other at stores
    cases stores with
    | decimal | registers => simp [toWord_inj] at spelled
  · have done : machine.attempt offered =
        .ok { machine := machine.underway.setReg x (byte ⟨0x6, x, y, n⟩) } := by
      rw [attempt, word, (Opcode.setValue x y n).decode_eq]
      rfl
    rw [cycle_of_ok running done]
    exact ⟨rfl, rfl, Vector.getElem_set_self x.isLt⟩

/-- The stored registers spell the word that loads them again, two words further on. -/
theorem load_undoes_store_spelled :
    let machine : Machine :=
      { ((booted 0 (.ofList [0xF1, 0x55, 0x60, 0x00]) .released).setReg 0 0xF1).setReg 1 0x65 with
        index := 0x204 }
    let stored := (machine.cycle (.ok 0)).state
    let cleared := (stored.cycle (.ok 0)).state
    let restored := (cleared.cycle (.ok 0)).state
    cleared.nextWord = toWord ⟨0xF, 0x1, 0x6, 0x5⟩ ∧ cleared.reg 0 = 0 ∧
      restored.reg 0 = 0xF1 ∧ restored.reg 1 = 0x65 := by
  intro machine
  dsimp only
  have word : machine.nextWord = toWord ⟨0xF, 0x1, 0x5, 0x5⟩ :=
    nextWord_booted 0 (.ofList [0xF1, 0x55, 0x60, 0x00]) .released
  have succeeded : (machine.cycle (.ok 0)).failure = none := by
    cases done : machine.attempt (.ok 0) with
    | ok effect => rw [cycle_of_ok rfl done]
    | error fault =>
      -- There is room for two registers.
      rw [attempt, word, (Opcode.storeRegisters 0x1).decode_eq] at done
      have room : Memory.Fits machine.underway.index.toNat 2 := (by decide : 0x204 + 2 ≤ 0x1000)
      exact absurd room ((effect_eq_error_iff_of_reach rfl).mp done).1
  obtain ⟨kept, restores⟩ := load_undoes_store (by decide) word succeeded
  have pc := kept.pc_eq.trans (show machine.pc + 2 = 0x202 from rfl)
  -- The word that clears the first register stands before the bytes that were stored.
  have next : (machine.cycle (.ok 0)).state.nextWord = toWord ⟨0x6, 0x0, 0x0, 0x0⟩ := by
    have same : (machine.cycle (.ok 0)).state.memory.wordAt 0x202 = machine.memory.wordAt 0x202 :=
      Memory.wordAt_congr (kept.kept 0x202 (Or.inl (by decide)))
        (kept.kept 0x203 (Or.inl (by decide)))
    rw [nextWord, pc]
    exact same.trans (wordAt_booted 0 (.ofList [0xF1, 0x55, 0x60, 0x00]) .released 2 (by decide))
  have running : (machine.cycle (.ok 0)).state.halted = false :=
    halted_eq_false_of_le (by rw [pc]; decide)
  obtain ⟨between, index, onward, clear⟩ := passes_setValue (.ok 0) 0x204 0x205 running next
  have high := (between.read (by decide) (by decide)).trans (kept.placed 0 (by decide))
  have low := (between.read (by decide) (by decide)).trans (kept.placed 1 (by decide))
  -- The two registers in memory are the two bytes of the word that is next.
  have loads : ((machine.cycle (.ok 0)).state.cycle (.ok 0)).state.nextWord =
      toWord ⟨0xF, 0x1, 0x6, 0x5⟩ := by
    rw [nextWord, onward, pc]
    exact Memory.wordAt_of_read high low
  have back := restores _ 0x1 (.ok 0) between (index.trans kept.index_eq)
    (by rw [onward, pc]; decide) loads (by decide)
  exact ⟨loads, clear, back.restored 0 (by decide), back.restored 1 (by decide)⟩

end ChipEight.Machine
