import ChipEight.Machine.Execute
import ChipEight.Memory.Laws
import ChipEight.Proofs.Except
import ChipEight.Proofs.Machine.Drawing

/-! When an instruction fails and with what left undone, and where a program goes on otherwise. -/

namespace ChipEight

/-- The bytes at the index that an instruction reads or writes, if it goes to memory at all. -/
def Instruction.reach : Instruction (Fin registerCount) → Option Nat
  | .draw _ _ height => some height.toNat
  | .storeDecimal _ => some 3
  | .storeRegisters x => some (x + 1)
  | .loadRegisters x => some (x + 1)
  | _ => none

/-- Whether the instruction makes a call or ends one. -/
def Instruction.calls {R : Type} : Instruction R → Bool
  | .ret => true
  | .call _ => true
  | _ => false

/-- A conditional skip goes on at one of the next two instructions. -/
theorem Flow.skipIf_cases (condition : Bool) :
    Flow.skipIf condition = .next ∨ Flow.skipIf condition = .skip := by
  cases condition with
  | false => exact Or.inl rfl
  | true => exact Or.inr rfl

/-- What an instruction that did not fail leaves behind. -/
structure Effect where
  /-- The machine, whose program counter is still that behind the instruction. -/
  machine : Machine
  /-- Where the program goes on. -/
  flow : Flow := .next

namespace Machine

open Memory

/-- What an instruction comes to, without the state that it leaves when it fails. -/
def effect (machine : Machine) (offered : Offer) (instruction : Instruction (Fin registerCount)) :
    Except Fault Effect :=
  match execute offered instruction machine with
  | .ok flow after => .ok { machine := after, flow }
  | .error fault _ => .error fault

/-- A register that is set holds what it was set to, and the others what they held. -/
theorem reg_setReg (machine : Machine) (x z : Fin registerCount) (byte : UInt8) :
    (machine.setReg x byte).reg z = if z = x then byte else machine.reg z := by
  -- Registers are told apart by their numbers.
  by_cases same : z = x
  · rw [if_pos same, same]
    exact Vector.getElem_set_self x.isLt
  · have numbers : x.val ≠ z.val := fun equal => same (Fin.ext equal.symm)
    rw [if_neg same]
    exact Vector.getElem_set_ne x.isLt z.isLt numbers

/-- A digit is the number of rows that it says. -/
theorem toNat_rows (n : Fin 16) : (UInt8.ofNat n).toNat = n := by
  -- A digit is too small for a byte to overflow.
  have digit := n.isLt
  rw [UInt8.toNat_ofNat']
  omega

section Fallible

variable (machine : Machine) (offered : Offer)

/-- A call is taken off the stack, or there is none and the stack is left empty. -/
theorem popCall_eq : popCall machine =
    match machine.stack.frames with
    | [] => .error .stackUnderflow machine
    | address :: rest => .ok address { machine with stack := ⟨rest⟩ } := by
  simp only [popCall, CallStack.pop]
  -- What is put back in place of an empty stack is that stack.
  cases called : machine.stack.frames with
  | nil => rfl
  | cons address rest => rfl

/-- Bytes are laid over memory at the index, or they do not fit and none of them is written. -/
theorem storeAtIndex_eq (bytes : List UInt8) : storeAtIndex bytes machine =
    if Fits machine.index.toNat bytes.length then
      .ok () { machine with
        memory := ⟨overlay machine.memory.cells machine.index.toNat bytes⟩ }
    else .error (rangeFault machine.index.toNat bytes.length) machine := by
  -- The range is checked first, and memory is put back into the machine after it.
  simp only [storeAtIndex, Activity.perform, Outcome.map]
  by_cases fits : Fits machine.index.toNat bytes.length
  · rw [if_pos fits, poke_of_fits _ fits]
  · rw [if_neg fits, poke_of_beyond _ fits]

/-- A return goes to the address of the latest call and ends it. -/
theorem execute_ret : execute offered .ret machine =
    match machine.stack.frames with
    | [] => .error .stackUnderflow machine
    | address :: rest => .ok (.jump address) { machine with stack := ⟨rest⟩ } := by
  -- What goes on at an address was taken off the stack before.
  simp only [execute, Activity.bind_apply, popCall_eq]
  cases machine.stack.frames <;> rfl

/-- A random number comes from the answer that is ready, or its reason is passed on. -/
theorem execute_random (x : Fin registerCount) (mask : UInt8) :
    execute offered (.random x mask) machine =
      match offered with
      | .ok byte => .ok .next (machine.setReg x (byte &&& mask))
      | .error reason => .error (.noRandomByte reason) machine := by
  -- The answer was ready before the instruction began.
  cases offered <;> rfl

/-- A sprite is drawn as a whole, or nothing is. -/
theorem execute_draw (x y : Fin registerCount) (height : UInt8) :
    execute offered (.draw x y height) machine =
      match machine.memory.slice machine.index.toNat height.toNat with
      | .ok sprite => .ok .next (machine.withSprite x y sprite)
      | .error fault => .error fault machine := by
  -- What is left to do after the sprite was drawn cannot fail.
  simp only [execute, Activity.bind_apply, draw_eq]
  cases machine.memory.slice machine.index.toNat height.toNat <;> rfl

/-- Registers are loaded from memory as a whole, or none of them is. -/
theorem execute_loadRegisters (x : Fin registerCount) :
    execute offered (.loadRegisters x) machine =
      match machine.memory.slice machine.index.toNat (x + 1) with
      | .ok bytes => .ok .next (machine.setRegisters bytes)
      | .error fault => .error fault machine := by
  -- The bytes are read before the first register is set.
  simp only [execute, Activity.bind_apply, Activity.look_apply]
  cases machine.memory.slice machine.index.toNat (x + 1) <;> rfl

/-- A wait is over once a key is held, and without one nothing happens. -/
theorem execute_awaitKey (x : Fin registerCount) : execute offered (.awaitKey x) machine =
    match machine.keypad.lowestHeld? with
    | some key => .ok .next (machine.setReg x (UInt8.ofNat key))
    | none => .ok .again machine := by
  -- The keys are looked at once, and the lowest of them counts.
  simp only [execute, Activity.bind_apply, Activity.get_apply]
  cases machine.keypad.lowestHeld? <;> rfl

end Fallible

/-- The bytes that an instruction stores at the index, if it does. -/
def stores? (machine : Machine) : Instruction (Fin registerCount) → Option (List UInt8)
  | .storeDecimal x => some (decimalDigits (machine.reg x))
  | .storeRegisters x => some (machine.registers.toList.take (x + 1))
  | _ => none

/-- The registers up to one of them are one more than its number. -/
theorem length_take_registers (machine : Machine) (x : Fin registerCount) :
    (machine.registers.toList.take (x + 1)).length = x + 1 := by
  -- There are at least as many registers as are taken.
  have inside := x.isLt
  rw [List.length_take, Vector.length_toList]
  omega

section Changes

variable {machine after : Machine} {offered : Offer} {instruction : Instruction (Fin registerCount)}
  {effect : Effect} {fault : Fault} {bytes : List UInt8}

/-- An instruction that stores bytes reaches as many. -/
theorem reach_of_stores (stores : machine.stores? instruction = some bytes) :
    instruction.reach = some bytes.length := by
  cases instruction with
  -- A byte has three decimal digits.
  | storeDecimal x => cases stores; rfl
  | storeRegisters x => cases stores; exact congrArg some (machine.length_take_registers x).symm
  | _ => cases stores

/-- An instruction that stores puts all bytes in place or none. -/
theorem execute_stores (offered : Offer) (stores : machine.stores? instruction = some bytes) :
    execute offered instruction machine =
      if Fits machine.index.toNat bytes.length then
        .ok .next { machine with
          memory := ⟨overlay machine.memory.cells machine.index.toNat bytes⟩ }
      else .error (rangeFault machine.index.toNat bytes.length) machine := by
  -- Both instructions that store come to the same, with bytes of their own.
  have stored : execute offered instruction machine =
      (storeAtIndex bytes >>= fun _ => pure .next) machine := by
    cases instruction with
    | storeDecimal x | storeRegisters x => cases stores; rfl
    | _ => cases stores
  rw [stored]
  simp only [Activity.bind_apply, storeAtIndex_eq]
  -- The program goes on only if all bytes were put in place.
  by_cases fits : Fits machine.index.toNat bytes.length
  · simp only [if_pos fits]
    rfl
  · simp only [if_neg fits]

/--
An instruction that fails has not changed anything by then: each one that can fail is refused before
the first change that it would make.
-/
theorem eq_of_execute_error (failed : execute offered instruction machine = .error fault after) :
    after = machine := by
  -- Seven instructions do more than one thing, and the first of these is what can fail.
  cases instruction with
  -- A stack without calls is put back as it was found.
  | ret =>
    rw [execute_ret] at failed
    split at failed <;> cases failed
    rfl
  | random x mask =>
    rw [execute_random] at failed
    split at failed <;> cases failed
    rfl
  | draw x y height =>
    -- The flag is cleared only once the sprite was read.
    rw [execute_draw] at failed
    split at failed <;> cases failed
    rfl
  | storeDecimal x | storeRegisters x =>
    rw [execute_stores offered rfl] at failed
    split at failed <;> cases failed
    rfl
  -- No register is set before all bytes were read.
  | loadRegisters x =>
    rw [execute_loadRegisters] at failed
    split at failed <;> cases failed
    rfl
  | awaitKey x =>
    -- Held key or not, there is no failure.
    rw [execute_awaitKey] at failed
    split at failed <;> cases failed
  | _ => cases failed

/-- What an instruction comes to says it all, since a failure leaves the machine as it was. -/
theorem execute_eq (machine : Machine) (offered : Offer)
    (instruction : Instruction (Fin registerCount)) :
    execute offered instruction machine =
      match machine.effect offered instruction with
      | .ok effect => .ok effect.flow effect.machine
      | .error fault => .error fault machine := by
  -- The state after a failure is no news.
  rw [effect]
  cases done : execute offered instruction machine with
  | ok flow after => rfl
  | error fault after => rw [eq_of_execute_error done]

/-- A call under way is returned from, and without one there is nothing to return from. -/
theorem effect_ret : machine.effect offered .ret =
    match machine.stack.frames with
    | [] => .error .stackUnderflow
    | address :: rest =>
      .ok { machine := { machine with stack := ⟨rest⟩ }, flow := .jump address } := by
  rw [effect, execute_ret]
  cases machine.stack.frames <;> rfl

/-- A sprite is drawn when it lies in memory. -/
theorem effect_draw {x y : Fin registerCount} {height : UInt8} :
    machine.effect offered (.draw x y height) =
      (machine.memory.slice machine.index.toNat height.toNat).map fun sprite =>
        { machine := machine.withSprite x y sprite } := by
  rw [effect, execute_draw]
  cases machine.memory.slice machine.index.toNat height.toNat <;> rfl

/-- Registers are loaded when as many bytes lie in memory. -/
theorem effect_loadRegisters {x : Fin registerCount} :
    machine.effect offered (.loadRegisters x) =
      (machine.memory.slice machine.index.toNat (x + 1)).map fun bytes =>
        { machine := machine.setRegisters bytes } := by
  rw [effect, execute_loadRegisters]
  cases machine.memory.slice machine.index.toNat (x + 1) <;> rfl

/-- Bytes are stored when they fit at the index. -/
theorem effect_stores (stores : machine.stores? instruction = some bytes) :
    machine.effect offered instruction =
      if Fits machine.index.toNat bytes.length then
        .ok { machine := { machine with
          memory := ⟨overlay machine.memory.cells machine.index.toNat bytes⟩ } }
      else .error (rangeFault machine.index.toNat bytes.length) := by
  -- The state is there on the one branch and dropped on the other.
  rw [effect, execute_stores offered stores]
  by_cases fits : Fits machine.index.toNat bytes.length
  · simp only [if_pos fits]
  · simp only [if_neg fits]

/-- A wait is over once a key is held. -/
theorem effect_awaitKey {x : Fin registerCount} :
    machine.effect offered (.awaitKey x) =
      match machine.keypad.lowestHeld? with
      | some key => .ok { machine := machine.setReg x (UInt8.ofNat key) }
      | none => .ok { machine, flow := .again } := by
  rw [effect, execute_awaitKey]
  cases machine.keypad.lowestHeld? <;> rfl

/-- A random number is there when one was offered. -/
theorem effect_random {x : Fin registerCount} {mask : UInt8} :
    machine.effect offered (.random x mask) =
      match offered with
      | .ok byte => .ok { machine := machine.setReg x (byte &&& mask) }
      | .error reason => .error (.noRandomByte reason) := by
  rw [effect, execute_random]
  cases offered <;> rfl

end Changes

/-- The three causes that an instruction can fail for. -/
inductive Refusal (machine : Machine) (offered : Offer) :
    Instruction (Fin registerCount) → Fault → Prop where
  /-- There is no call to return from. -/
  | underflow (empty : machine.stack.frames = []) : Refusal machine offered .ret .stackUnderflow
  /-- The bytes at the index run past the end of memory. -/
  | beyond {instruction : Instruction (Fin registerCount)} {length : Nat}
      (reached : instruction.reach = some length) (past : 0x1000 < machine.index.toNat + length) :
    Refusal machine offered instruction
      (.outOfBounds .memory (machine.index.toNat + length - 1))
  /-- The random source has no answer. -/
  | exhausted (x : Fin registerCount) (mask : UInt8) {reason : String}
      (silent : offered = .error reason) :
    Refusal machine offered (.random x mask) (.noRandomByte reason)

/-- A range at the index does not fit when its end is past that of memory. -/
theorem not_fits_iff {machine : Machine} {length : Nat} {fault : Fault} (short : length ≤ 0x1000) :
    (¬ Fits machine.index.toNat length ∧ fault = rangeFault machine.index.toNat length) ↔
      0x1000 < machine.index.toNat + length ∧
        fault = .outOfBounds .memory (machine.index.toNat + length - 1) := by
  -- The fault is the same on both sides once its position is spelled out.
  rw [rangeFault_word machine.index short]
  exact and_congr_left' Nat.not_le

/-- No instruction reaches past the index by more than its operands can say. -/
theorem reach_le {instruction : Instruction (Fin registerCount)} {length : Nat}
    (reached : instruction.reach = some length) : length ≤ 0x100 := by
  -- An operand is a digit or a byte, and the length is no more than one above it.
  cases instruction with
  | draw x y height =>
    -- The number of rows is a byte.
    cases reached
    exact Nat.le_of_lt height.toNat_lt
  | storeRegisters x | loadRegisters x =>
    cases reached
    have number : x.val < 16 := x.isLt
    omega
  | storeDecimal x => cases reached; decide
  | _ => cases reached

/-- An instruction that goes to memory fails when the bytes that it reaches do not fit. -/
theorem effect_eq_error_iff_of_reach {machine : Machine} {offered : Offer}
    {instruction : Instruction (Fin registerCount)} {length : Nat} {fault : Fault}
    (reached : instruction.reach = some length) :
    machine.effect offered instruction = .error fault ↔
      ¬ Fits machine.index.toNat length ∧ fault = rangeFault machine.index.toNat length := by
  -- A sprite and registers are read as a slice, and the others are written to one.
  cases instruction with
  | draw x y height =>
    cases reached
    rw [effect_draw]
    exact map_eq_error_iff.trans (slice_eq_error_iff machine.memory)
  | storeDecimal x | storeRegisters x =>
    -- There are as many bytes as the instruction reaches.
    rw [reach_of_stores rfl, Option.some.injEq] at reached
    rw [effect_stores rfl, ← reached]
    exact check_eq_error_iff
  | loadRegisters x =>
    cases reached
    rw [effect_loadRegisters]
    exact map_eq_error_iff.trans (slice_eq_error_iff machine.memory)
  | _ => cases reached

/-- Only a return, a random number and an access to memory can fail. -/
theorem effect_eq_error_cases {machine : Machine} {offered : Offer}
    {instruction : Instruction (Fin registerCount)} {fault : Fault}
    (failed : machine.effect offered instruction = .error fault) :
    instruction = .ret ∨ (∃ x mask, instruction = .random x mask) ∨
      ∃ length, instruction.reach = some length := by
  cases instruction with
  | ret => exact Or.inl rfl
  | random x mask => exact Or.inr (Or.inl ⟨x, mask, rfl⟩)
  | draw | storeDecimal | storeRegisters | loadRegisters => exact Or.inr (Or.inr ⟨_, rfl⟩)
  | awaitKey x =>
    -- Held key or not, there is an effect.
    rw [effect_awaitKey] at failed
    split at failed <;> cases failed
  | _ => cases failed

/-- An instruction fails for the three causes and for no other. -/
theorem effect_eq_error_iff {machine : Machine} {offered : Offer}
    {instruction : Instruction (Fin registerCount)} {fault : Fault} :
    machine.effect offered instruction = .error fault ↔
      Refusal machine offered instruction fault := by
  constructor
  · intro failed
    rcases effect_eq_error_cases failed with rfl | ⟨x, mask, rfl⟩ | ⟨length, reached⟩
    · -- A return fails where there is nothing to pop.
      rw [effect_ret] at failed
      split at failed
      · rename_i empty
        cases failed
        exact .underflow empty
      · cases failed
    · -- A random number fails when none is offered.
      cases offered with
      | error reason => cases failed; exact .exhausted x mask rfl
      | ok byte => cases failed
    · -- All else goes to memory.
      have short := reach_le reached
      obtain ⟨past, rfl⟩ :=
        (not_fits_iff (by omega)).mp ((effect_eq_error_iff_of_reach reached).mp failed)
      exact .beyond reached past
  · -- Each of the causes is enough.
    intro refusal
    cases refusal with
    | underflow empty => rw [effect_ret, empty]
    | exhausted x mask silent => rw [effect_random, silent]
    | beyond reached past =>
      have short := reach_le reached
      exact (effect_eq_error_iff_of_reach reached).mpr ((not_fits_iff (by omega)).mpr ⟨past, rfl⟩)

/-- A return goes to the address of the latest call and ends it. -/
theorem effect_ret_eq_ok {machine : Machine} {offered : Offer} {effect : Effect}
    (done : machine.effect offered .ret = .ok effect) :
    ∃ address rest, machine.stack.frames = address :: rest ∧
      effect = { machine := { machine with stack := ⟨rest⟩ }, flow := .jump address } := by
  rw [effect_ret] at done
  -- Without a call under way the return would have failed.
  split at done
  · cases done
  · rename_i address rest called
    cases done
    exact ⟨address, rest, called, rfl⟩

/-- Bytes that were stored fit at the index and are laid over memory there. -/
theorem effect_stores_eq_ok {machine : Machine} {offered : Offer}
    {instruction : Instruction (Fin registerCount)} {effect : Effect} {bytes : List UInt8}
    (stores : machine.stores? instruction = some bytes)
    (done : machine.effect offered instruction = .ok effect) :
    Fits machine.index.toNat bytes.length ∧ effect = { machine := { machine with
      memory := ⟨overlay machine.memory.cells machine.index.toNat bytes⟩ } } := by
  -- Both bytes and range are those of the check.
  rw [effect_stores stores] at done
  exact check_eq_ok_iff.mp done

/--
No instruction touches the record of the last word, the program counter or the keys, and only a call
and a return touch the calls under way.
-/
theorem effect_keeps {machine : Machine} {offered : Offer}
    {instruction : Instruction (Fin registerCount)} {effect : Effect}
    (done : machine.effect offered instruction = .ok effect) :
    effect.machine.lastWord = machine.lastWord ∧
      effect.machine.lastAddress = machine.lastAddress ∧
      effect.machine.pc = machine.pc ∧ effect.machine.keypad = machine.keypad ∧
      (instruction.calls = false → effect.machine.stack = machine.stack) := by
  -- Only few instructions can come to more than one effect.
  cases instruction with
  -- Both touch the calls, and that is all they do.
  | ret =>
    obtain ⟨address, rest, _, rfl⟩ := effect_ret_eq_ok done
    exact ⟨rfl, rfl, rfl, rfl, nofun⟩
  | call target => cases done; exact ⟨rfl, rfl, rfl, rfl, nofun⟩
  | awaitKey x =>
    -- A held key goes to a register, and without one nothing changes.
    rw [effect_awaitKey] at done
    split at done <;> cases done <;> exact ⟨rfl, rfl, rfl, rfl, fun _ => rfl⟩
  -- A register takes the number that was offered.
  | random x mask =>
    cases offered with
    | error reason => cases done
    | ok byte => cases done; exact ⟨rfl, rfl, rfl, rfl, fun _ => rfl⟩
  | draw x y height =>
    -- The screen and the flag are all that a sprite touches.
    rw [effect_draw] at done
    obtain ⟨sprite, _, rfl⟩ := map_eq_ok_iff.mp done
    exact ⟨rfl, rfl, rfl, rfl, fun _ => rfl⟩
  | storeDecimal x | storeRegisters x =>
    -- Memory is all that is stored to.
    obtain ⟨_, rfl⟩ := effect_stores_eq_ok rfl done
    exact ⟨rfl, rfl, rfl, rfl, fun _ => rfl⟩
  -- The bytes go to registers.
  | loadRegisters x =>
    rw [effect_loadRegisters] at done
    obtain ⟨bytes, _, rfl⟩ := map_eq_ok_iff.mp done
    simp [setRegisters]
  | _ => cases done; exact ⟨rfl, rfl, rfl, rfl, fun _ => rfl⟩

/-- Where a program goes on after an instruction, with all that the instructions that jump do. -/
inductive Departure (machine : Machine) : Instruction (Fin registerCount) → Effect → Prop where
  /-- Past the instruction. -/
  | onward {instruction : Instruction (Fin registerCount)} {effect : Effect}
      (flow : effect.flow = .next ∨ effect.flow = .skip) : Departure machine instruction effect
  /-- At the target of a jump. -/
  | jump (target : UInt16) : Departure machine (.jump target) { machine, flow := .jump target }
  /-- At the target of an indexed jump. -/
  | jumpIndexed (base : UInt16) :
    Departure machine (.jumpIndexed base)
      { machine, flow := .jump (base + (machine.reg jumpRegister).toUInt16) }
  /-- At the same instruction again, while no key is held. -/
  | awaitKey (x : Fin registerCount) (free : machine.keypad.lowestHeld? = none) :
    Departure machine (.awaitKey x) { machine, flow := .again }
  /-- At a subroutine, with one more call under way. -/
  | call (target : UInt16) :
    Departure machine (.call target)
      { machine := { machine with stack := machine.stack.push machine.pc }
        flow := .jump target }
  /-- Behind the latest call, which is over. -/
  | ret (address : UInt16) (rest : List UInt16) (called : machine.stack.frames = address :: rest) :
    Departure machine .ret
      { machine := { machine with stack := ⟨rest⟩ }, flow := .jump address }

/-- An instruction leads past itself unless it is one of five. -/
theorem departure_of_effect {machine : Machine} {offered : Offer}
    {instruction : Instruction (Fin registerCount)} {effect : Effect}
    (done : machine.effect offered instruction = .ok effect) :
    Departure machine instruction effect := by
  cases instruction with
  | jump target => cases done; exact .jump target
  | jumpIndexed base => cases done; exact .jumpIndexed base
  | call target => cases done; exact .call target
  | ret =>
    obtain ⟨address, rest, called, rfl⟩ := effect_ret_eq_ok done
    exact .ret address rest called
  | awaitKey x =>
    rw [effect_awaitKey] at done
    split at done
    · -- A held key ends the wait.
      cases done; exact .onward (Or.inl rfl)
    · rename_i free
      cases done
      exact .awaitKey x free
  | random x mask =>
    rw [effect_random] at done
    split at done <;> cases done
    exact .onward (Or.inl rfl)
  -- What was done to the machine does not matter where the flow is the same.
  | draw x y height =>
    rw [effect_draw] at done
    obtain ⟨sprite, _, rfl⟩ := map_eq_ok_iff.mp done
    exact .onward (Or.inl rfl)
  | storeDecimal x | storeRegisters x =>
    obtain ⟨_, rfl⟩ := effect_stores_eq_ok rfl done
    exact .onward (Or.inl rfl)
  | loadRegisters x =>
    rw [effect_loadRegisters] at done
    obtain ⟨bytes, _, rfl⟩ := map_eq_ok_iff.mp done
    exact .onward (Or.inl rfl)
  | skipIfValue | skipUnlessValue | skipIfSame | skipUnlessSame | skipIfHeld | skipUnlessHeld =>
    cases done
    exact .onward (Flow.skipIf_cases _)
  | _ => cases done; exact .onward (Or.inl rfl)

end Machine

end ChipEight
