import ChipEight.Proofs.Instruction.Reading
import ChipEight.Proofs.Machine.Failure
import ChipEight.Proofs.Machine.Reachable

/-! Words with the same text do the same, whichever of them a machine has at its program counter. -/

namespace ChipEight

/-- Two attempts that fail for the same cause, or come to results that are related. -/
inductive AttemptsAgree {ε α : Type} (related : α → α → Prop) :
    Except ε α → Except ε α → Prop where
  | failed (cause : ε) : AttemptsAgree related (.error cause) (.error cause)
  | done {result other : α} (results : related result other) :
    AttemptsAgree related (.ok result) (.ok other)

namespace Memory

/-- Two memories that are the same but for the word at an address. -/
def AgreesBeside (address : Nat) (memory other : Memory) : Prop :=
  ∀ place, place ≠ address → place ≠ address + 1 → memory.read place = other.read place

variable {address first length : Nat} {memory other : Memory}

/-- Beside the word the same bytes are read. -/
theorem AgreesBeside.slice (agrees : memory.AgreesBeside address other)
    (clear : ∀ offset < length, first + offset ≠ address ∧ first + offset ≠ address + 1) :
    memory.slice first length = other.slice first length := by
  -- The bytes are compared one by one, and none of them is in the word.
  by_cases fits : Fits first length
  · rw [slice_eq_ok_iff.mpr ⟨fits, rfl⟩, slice_eq_ok_iff.mpr ⟨fits, rfl⟩]
    refine congrArg Except.ok (List.ext_getElem? fun offset => ?_)
    rw [getElem?_slice (slice_eq_ok_iff.mpr ⟨fits, rfl⟩),
      getElem?_slice (slice_eq_ok_iff.mpr ⟨fits, rfl⟩)]
    split
    · rename_i inside
      obtain ⟨high, low⟩ := clear offset inside
      rw [← toOption_read, ← toOption_read, agrees _ high low]
    · rfl
  · -- A range that does not fit is refused without a look at the bytes.
    rw [Memory.slice, Memory.slice, if_neg fits, if_neg fits]

/-- The same bytes laid over both are the same in both, wherever that is. -/
theorem AgreesBeside.overlay (agrees : memory.AgreesBeside address other) {bytes : List UInt8}
    (fits : Fits first bytes.length) :
    AgreesBeside address ⟨Memory.overlay memory.cells first bytes⟩
      ⟨Memory.overlay other.cells first bytes⟩ := by
  intro place high low
  -- A place is either written on both sides or on neither.
  by_cases inside : first ≤ place ∧ place < first + bytes.length
  · -- What was written is read from both.
    obtain ⟨offset, rfl⟩ := Nat.exists_eq_add_of_le inside.1
    have listed : bytes[offset]? = some bytes[offset] :=
      List.getElem?_eq_getElem (Nat.lt_of_add_lt_add_left inside.2)
    rw [read_overlay_inside memory fits listed, read_overlay_inside other fits listed]
  · have outside : place < first ∨ first + bytes.length ≤ place := by omega
    rw [read_overlay_outside memory outside, read_overlay_outside other outside]
    exact agrees place high low

end Memory

/-- An instruction that a word stands for goes to no more than sixteen bytes. -/
theorem Instruction.reach_decode_le {word : UInt16} {length : Nat}
    (reached : (decode word).reach = some length) : length ≤ 16 := by
  rcases listed word with row | unknown
  · generalize decode word = instruction at row reached
    cases row with
    | draw x y n =>
      -- The number of rows is one digit of the word.
      cases reached
      rw [Machine.toNat_rows]
      exact Nat.le_of_lt n.isLt
    | storeRegisters x | loadRegisters x =>
      cases reached
      exact x.isLt
    | storeDecimal x =>
      cases reached
      decide
    | _ => cases reached
  · rw [unknown] at reached
    cases reached

/-- Two machines that are the same but for the word at an address and the word on record. -/
structure Machine.AgreesBeside (address : Nat) (machine other : Machine) : Prop where
  registers : machine.registers = other.registers
  index : machine.index = other.index
  pc : machine.pc = other.pc
  stack : machine.stack = other.stack
  lastAddress : machine.lastAddress = other.lastAddress
  screen : machine.screen = other.screen
  keypad : machine.keypad = other.keypad
  timers : machine.timers = other.timers
  memory : machine.memory.AgreesBeside address other.memory

/-- Two effects on such machines that are the same but for that word and the record. -/
structure Effect.AgreesBeside (address : Nat) (effect other : Effect) : Prop where
  machine : effect.machine.AgreesBeside address other.machine
  flow : effect.flow = other.flow

namespace Machine

open Instruction

variable {machine other : Machine} {address : Nat}

/-- A machine is one that it agrees with, but for its memory and its record. -/
theorem AgreesBeside.eq_with (agrees : machine.AgreesBeside address other) :
    other = { machine with memory := other.memory, lastWord := other.lastWord } := by
  -- All other fields are equal one by one.
  obtain ⟨registers, index, pc, stack, lastAddress, screen, keypad, timers, _⟩ := agrees
  rw [registers, index, pc, stack, lastAddress, screen, keypad, timers]

/-- Bytes stored at the index leave machines that agree, if they fit there. -/
theorem stores_agree {memory : Memory} (beside : machine.memory.AgreesBeside address memory)
    (lastWord : UInt16) (offered : Offer) {instruction : Instruction (Fin registerCount)}
    {bytes : List UInt8} (stores : machine.stores? instruction = some bytes)
    (stores' : { machine with memory, lastWord }.stores? instruction = some bytes) :
    AttemptsAgree (Effect.AgreesBeside address) (machine.effect offered instruction)
      ({ machine with memory, lastWord }.effect offered instruction) := by
  rw [effect_stores stores, effect_stores stores']
  -- Whether the bytes fit is decided by the index, which is the same.
  by_cases fits : Memory.Fits machine.index.toNat bytes.length
  · rw [if_pos fits, if_pos fits]
    exact .done ⟨⟨rfl, rfl, rfl, rfl, rfl, rfl, rfl, rfl, beside.overlay fits⟩, rfl⟩
  · rw [if_neg fits, if_neg fits]
    exact .failed _

/-- An instruction that does not go to the word does the same on both machines. -/
theorem AgreesBeside.effect (agrees : machine.AgreesBeside address other)
    (offered : Offer) {instruction : Instruction (Fin registerCount)}
    (clear : ∀ length, instruction.reach = some length → ∀ offset < length,
      machine.index.toNat + offset ≠ address ∧ machine.index.toNat + offset ≠ address + 1) :
    AttemptsAgree (Effect.AgreesBeside address) (machine.effect offered instruction)
      (other.effect offered instruction) := by
  have beside := agrees.memory
  -- The machines differ in memory and record alone, and what is made of the rest is the same.
  rw [agrees.eq_with]
  cases instruction with
  -- What does not go to memory is done alike on every branch.
  | ret =>
    simp only [effect_ret]
    cases machine.stack.frames with
    | nil => exact .failed _
    | cons address rest => exact .done ⟨⟨rfl, rfl, rfl, rfl, rfl, rfl, rfl, rfl, beside⟩, rfl⟩
  | random x mask =>
    cases offered with
    | error reason => exact .failed _
    | ok byte => exact .done ⟨⟨rfl, rfl, rfl, rfl, rfl, rfl, rfl, rfl, beside⟩, rfl⟩
  | awaitKey x =>
    simp only [effect_awaitKey]
    cases machine.keypad.lowestHeld? <;>
      exact .done ⟨⟨rfl, rfl, rfl, rfl, rfl, rfl, rfl, rfl, beside⟩, rfl⟩
  -- What is read beside the word is the same.
  | draw x y height =>
    simp only [effect_draw, ← beside.slice (clear _ rfl)]
    cases machine.memory.slice machine.index.toNat height.toNat with
    | error fault => exact .failed fault
    | ok sprite =>
      simp only [withSprite, reg, Except.map]
      -- The picture needs a name, or else it would be drawn here.
      generalize machine.screen.drawSprite _ _ sprite = drawn
      exact .done ⟨⟨rfl, rfl, rfl, rfl, rfl, rfl, rfl, rfl, beside⟩, rfl⟩
  | loadRegisters x =>
    simp only [effect_loadRegisters, setRegisters, ← beside.slice (clear _ rfl)]
    cases machine.memory.slice machine.index.toNat (x + 1) with
    | error fault => exact .failed fault
    | ok bytes => exact .done ⟨⟨rfl, rfl, rfl, rfl, rfl, rfl, rfl, rfl, beside⟩, rfl⟩
  -- What is stored comes from the registers.
  | storeDecimal x | storeRegisters x => exact stores_agree beside _ offered rfl rfl
  | _ => exact .done ⟨⟨rfl, rfl, rfl, rfl, rfl, rfl, rfl, rfl, beside⟩, rfl⟩

/-- A machine that fetches a word goes on, and carries that word out. -/
theorem of_fetch {word : UInt16} (fetched : machine.fetch = .ok word) :
    machine.halted = false ∧ machine.nextWord = word := by
  cases running : machine.halted with
  | false =>
    rw [fetch_of_running running] at fetched
    exact ⟨rfl, Except.ok.inj fetched⟩
  | true =>
    -- Past the last address there is no room for a word.
    obtain ⟨high, low, first, second, _⟩ := Memory.fetch_eq_ok_iff.mp fetched
    have inside : machine.pc.toNat + 1 < memorySize := Memory.exists_read_iff.mp ⟨low, second⟩
    have halted : ¬ machine.halted = false := by simp [running]
    rw [halted_eq_false_iff] at halted
    have size : memorySize = 0x1000 := rfl
    omega

/-- What the record says of the next word may differ as before. -/
theorem AgreesBeside.noted (agrees : machine.AgreesBeside address other) :
    machine.noted.AgreesBeside address other.noted := by
  -- The address of the word is its program counter, and that is the same.
  obtain ⟨registers, index, pc, stack, _, screen, keypad, timers, memory⟩ := agrees
  exact ⟨registers, index, pc, stack, pc, screen, keypad, timers, memory⟩

/-- What the program counter is set to may be the same on both machines. -/
theorem AgreesBeside.with_pc (agrees : machine.AgreesBeside address other) (pc : UInt16) :
    { machine with pc }.AgreesBeside address { other with pc } := by
  obtain ⟨registers, index, _, stack, lastAddress, screen, keypad, timers, memory⟩ := agrees
  exact ⟨registers, index, rfl, stack, lastAddress, screen, keypad, timers, memory⟩

/-- Machines that agree still do when their words are underway. -/
theorem AgreesBeside.underway (agrees : machine.AgreesBeside address other) :
    machine.underway.AgreesBeside address other.underway := by
  -- The program counter moves on by one word on both machines.
  obtain ⟨registers, index, pc, stack, place, screen, keypad, timers, memory⟩ := agrees.noted
  exact ⟨registers, index, congrArg (· + 2) pc, stack, place, screen, keypad, timers, memory⟩

/-- Words that stand for one instruction do the same, unless it goes to the bytes of the word. -/
theorem AgreesBeside.attempt (agrees : machine.AgreesBeside address other)
    (offered : Offer) (same : decode machine.nextWord = decode other.nextWord)
    (clear : ∀ offset ≤ 15, machine.index.toNat + offset ≠ address ∧
      machine.index.toNat + offset ≠ address + 1) :
    AttemptsAgree (Effect.AgreesBeside address) (machine.attempt offered)
      (other.attempt offered) := by
  rw [Machine.attempt, Machine.attempt, ← same]
  refine agrees.underway.effect offered fun length reached offset inside => clear offset ?_
  -- Sixteen bytes are all that it can go to.
  have short := reach_decode_le reached
  omega

/--
The text of an instruction tells which one it is, whatever its operands. So two words with the same
text have the same outcome on the same machine and do the same to it, beside the record and the
bytes that they are made of, as long as an instruction at the index does not go to those.
-/
theorem text_tells_effect :
    (∀ a b : Instruction Nat, a.text = b.text → a = b) ∧
      ∀ (machine other : Machine) (word word' : UInt16) (offered : Offer),
        machine.fetch = .ok word → other.fetch = .ok word' →
        textOfWord word = textOfWord word' → machine.AgreesBeside machine.pc.toNat other →
        (∀ offset ≤ 15, machine.index.toNat + offset ≠ machine.pc.toNat ∧
          machine.index.toNat + offset ≠ machine.pc.toNat + 1) →
        (machine.cycle offered).failure = (other.cycle offered).failure ∧
          (machine.cycle offered).state.AgreesBeside machine.pc.toNat
            (other.cycle offered).state := by
  refine ⟨fun a b => text_inj.mp, ?_⟩
  intro machine other word word' offered fetched fetched' text agrees clear
  -- A machine that fetches a word carries out that word.
  obtain ⟨running, rfl⟩ := of_fetch fetched
  obtain ⟨running', rfl⟩ := of_fetch fetched'
  have attempts := agrees.attempt offered (textOfWord_inj.mp text) clear
  generalize done : machine.attempt offered = attempt at attempts
  generalize done' : other.attempt offered = attempt' at attempts
  cases attempts with
  | failed fault =>
    rw [cycle_of_error running done, cycle_of_error running' done']
    exact ⟨rfl, agrees.noted⟩
  | done same =>
    -- The next address follows from the flow and from where the word was.
    rw [cycle_of_ok running done, cycle_of_ok running' done', ← same.flow, ← agrees.pc]
    exact ⟨rfl, same.machine.with_pc _⟩

/-- Machines that have all but their memories in common agree where the memories do. -/
theorem agreesBeside_withMemory (machine : Machine) {memory memory' : Memory} {address : Nat}
    (beside : memory.AgreesBeside address memory') :
    { machine with memory }.AgreesBeside address { machine with memory := memory' } :=
  ⟨rfl, rfl, rfl, rfl, rfl, rfl, rfl, rfl, beside⟩

/-- Programs that differ in their first word alone leave the same all around it. -/
theorem booted_agreesBeside (now : Nat) (keypad : Keypad) {rom rom' : Bytes}
    (same : ∀ offset, 2 ≤ offset → rom.get? offset = rom'.get? offset) :
    (booted now rom keypad).AgreesBeside 0x200 (booted now rom' keypad) := by
  refine agreesBeside_withMemory { switchedOn now with keypad } fun place high low => ?_
  refine Memory.read_congr fun inside => ?_
  rw [Memory.getElem_install, Memory.getElem_install]
  -- Below its start a program leaves memory as it was.
  by_cases below : place < programStart
  · rw [if_pos below, if_pos below]
  · have start : programStart = 0x200 := rfl
    rw [if_neg below, if_neg below, same (place - programStart) (by omega)]

/-- The last digit of a comparison of registers is neither shown nor heeded. -/
theorem text_tells_effect_last_digit :
    let machine := booted 0 (.ofList [0x51, 0x20]) .released
    let other := booted 0 (.ofList [0x51, 0x27]) .released
    (machine.fetch = .ok 0x5120 ∧ other.fetch = .ok 0x5127 ∧
        textOfWord 0x5120 = textOfWord 0x5127 ∧ machine.AgreesBeside 0x200 other ∧
        ∀ offset ≤ 15, 0 + offset ≠ 0x200 ∧ 0 + offset ≠ 0x201) ∧
      (decode 0x5120).map Fin.val = (decode 0x5127).map Fin.val ∧
      (machine.cycle (.ok 0)).failure = (other.cycle (.ok 0)).failure ∧
      (machine.cycle (.ok 0)).state.AgreesBeside 0x200 (other.cycle (.ok 0)).state := by
  intro machine other
  have fetched : machine.fetch = .ok 0x5120 :=
    (fetch_of_running (halted_eq_false_of_le (by decide))).trans
      (congrArg Except.ok (nextWord_booted 0 _ .released))
  have fetched' : other.fetch = .ok 0x5127 :=
    (fetch_of_running (halted_eq_false_of_le (by decide))).trans
      (congrArg Except.ok (nextWord_booted 0 _ .released))
  have text : textOfWord 0x5120 = textOfWord 0x5127 := textOfWord_inj.mpr (by decide)
  have agrees : machine.AgreesBeside 0x200 other := by
    refine booted_agreesBeside 0 .released fun offset past => ?_
    -- Both programs end after their first word.
    have ended : ¬ offset < 2 := Nat.not_lt.mpr past
    exact (if_neg ended).trans (if_neg ended).symm
  have clear : ∀ offset ≤ 15, 0 + offset ≠ 0x200 ∧ 0 + offset ≠ 0x201 := by omega
  have effect := text_tells_effect.2 machine other _ _ (.ok 0) fetched fetched' text agrees clear
  exact ⟨⟨fetched, fetched', text, agrees, clear⟩, text_tells_effect.1 _ _ text, effect⟩

end Machine

end ChipEight
