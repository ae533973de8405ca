import Mathlib.Tactic.ByContra
import ChipEight.Proofs.Instruction.Opcode
import ChipEight.Proofs.Machine.Step

/-! What each word can change, and that a cycle changes nothing else. -/

namespace ChipEight.Machine

open Nibbles Instruction

/-- The parts of a machine, apart from the record and the program counter. -/
inductive Part where
  | byte (address : Fin memorySize)
  | screen
  | stack
  | index
  | delay
  | sound
  | lastCount
  | keypad
  | register (x : Fin registerCount)

/-- A part is the same on two machines. -/
def Part.Same (part : Part) (before after : Machine) : Prop :=
  match part with
  | byte address => after.memory.cells.get address = before.memory.cells.get address
  | screen => after.screen = before.screen
  | stack => after.stack = before.stack
  | index => after.index = before.index
  | delay => after.timers.delay = before.timers.delay
  | sound => after.timers.sound = before.timers.sound
  | lastCount => after.timers.lastCount = before.timers.lastCount
  | keypad => after.keypad = before.keypad
  | register x => after.reg x = before.reg x

/--
The parts that each word can change when it is carried out at an index. The rows go from the words
with one part to those with several, and no row has the keys or the moment of the last count.
-/
inductive MayChange (index : UInt16) : UInt16 → Part → Prop where
  | clearScreen : MayChange index 0x00E0 .screen
  | ret : MayChange index 0x00EE .stack
  | call (x y n : Fin 16) : MayChange index (toWord ⟨0x2, x, y, n⟩) .stack
  | setValue (x y n : Fin 16) : MayChange index (toWord ⟨0x6, x, y, n⟩) (.register x)
  | addValue (x y n : Fin 16) : MayChange index (toWord ⟨0x7, x, y, n⟩) (.register x)
  | setIndex (x y n : Fin 16) : MayChange index (toWord ⟨0xA, x, y, n⟩) .index
  | random (x y n : Fin 16) : MayChange index (toWord ⟨0xC, x, y, n⟩) (.register x)
  | readDelay (x : Fin 16) : MayChange index (toWord ⟨0xF, x, 0x0, 0x7⟩) (.register x)
  | awaitKey (x : Fin 16) : MayChange index (toWord ⟨0xF, x, 0x0, 0xA⟩) (.register x)
  | setDelay (x : Fin 16) : MayChange index (toWord ⟨0xF, x, 0x1, 0x5⟩) .delay
  | setSound (x : Fin 16) : MayChange index (toWord ⟨0xF, x, 0x1, 0x8⟩) .sound
  | addIndex (x : Fin 16) : MayChange index (toWord ⟨0xF, x, 0x1, 0xE⟩) .index
  | loadGlyph (x : Fin 16) : MayChange index (toWord ⟨0xF, x, 0x2, 0x9⟩) .index
  -- Of family 8, the digits up to 7 and the digit 14 select a row of the table.
  | arithmetic (x y n : Fin 16) (known : n ≤ 0x7 ∨ n = 0xE) :
    MayChange index (toWord ⟨0x8, x, y, n⟩) (.register x)
  | flag (x y n : Fin 16) (flagged : 0x4 ≤ n ∧ n ≤ 0x7 ∨ n = 0xE) :
    MayChange index (toWord ⟨0x8, x, y, n⟩) (.register flagRegister)
  | draw (x y n : Fin 16) : MayChange index (toWord ⟨0xD, x, y, n⟩) .screen
  | erased (x y n : Fin 16) : MayChange index (toWord ⟨0xD, x, y, n⟩) (.register flagRegister)
  | storeDecimal (x : Fin 16) (address : Fin memorySize) (above : index.toNat ≤ address)
      (below : address ≤ index.toNat + 2) :
    MayChange index (toWord ⟨0xF, x, 0x3, 0x3⟩) (.byte address)
  | storeRegisters (x : Fin 16) (address : Fin memorySize) (above : index.toNat ≤ address)
      (below : address ≤ index.toNat + x) :
    MayChange index (toWord ⟨0xF, x, 0x5, 0x5⟩) (.byte address)
  | loadRegisters (x y : Fin 16) (below : y ≤ x) :
    MayChange index (toWord ⟨0xF, x, 0x6, 0x5⟩) (.register y)

variable {machine middle after : Machine} {index word : UInt16} {part other : Part}

/-- A part is the same as itself. -/
theorem Part.same_refl (part : Part) (machine : Machine) : part.Same machine machine := by
  cases part <;> rfl

/-- A part that stays the same twice stays the same. -/
theorem Part.Same.trans (first : part.Same machine middle) (second : part.Same middle after) :
    part.Same machine after := by
  -- Each part is compared by an equation.
  cases part <;> exact Eq.trans second first

/-- A part that a word cannot change is none of those that it can. -/
theorem MayChange.ne (may : MayChange index word other) (untouched : ¬ MayChange index word part) :
    part ≠ other := by
  -- The part would have a row after all.
  rintro rfl
  exact untouched may

/-- No word has a row for the keys. -/
theorem not_mayChange_keypad : ¬ MayChange index word .keypad := nofun

/-- No word has a row for the moment of the last count. -/
theorem not_mayChange_lastCount : ¬ MayChange index word .lastCount := nofun

/-- Setting a register changes that one alone. -/
theorem same_setReg {x : Fin registerCount} (apart : part ≠ .register x) (value : UInt8) :
    part.Same machine (machine.setReg x value) := by
  cases part with
  -- Another register is told apart by its number.
  | register y =>
    have other : y ≠ x := fun same => apart (congrArg Part.register same)
    exact (reg_setReg machine x y value).trans (if_neg other)
  | _ => rfl

/-- Setting the flag and then a register changes those two alone. -/
theorem same_flagged {x : Fin registerCount} (apart : part ≠ .register flagRegister)
    (apart' : part ≠ .register x) (value result : UInt8) :
    part.Same machine ((machine.setReg flagRegister value).setReg x result) :=
  (same_setReg apart value).trans (same_setReg apart' result)

/-- Loading registers leaves those as they are for which there is no byte. -/
theorem same_setRegisters {bytes : List UInt8}
    (apart : ∀ x : Fin registerCount, part = .register x → bytes.length ≤ x) :
    part.Same machine (machine.setRegisters bytes) := by
  cases part with
  | register x =>
    -- A register for which there is no byte gets back what it holds.
    have past := apart x rfl
    simp only [Part.Same, reg, setRegisters, Fin.getElem_fin, Vector.getElem_ofFn]
    rw [List.getD_eq_getElem?_getD, List.getElem?_eq_none past]
    rfl
  -- The registers are the only field that is set.
  | _ => simp only [Part.Same, setRegisters]

/-- Bytes laid over memory at the index leave every byte outside their range as it is. -/
theorem same_overlay {bytes : List UInt8}
    (apart : ∀ address : Fin memorySize, part = .byte address →
      address < machine.index.toNat ∨ machine.index.toNat + bytes.length ≤ address) :
    part.Same machine { machine with
      memory := ⟨Memory.overlay machine.memory.cells machine.index.toNat bytes⟩ } := by
  cases part with
  | byte address =>
    -- Only the bytes of the range are laid over.
    exact Memory.getElem_overlay_outside bytes machine.memory.cells address.isLt (apart address rfl)
  | _ => rfl

/-- A new screen changes no other part. -/
theorem same_screen (apart : part ≠ .screen) (screen : Screen) :
    part.Same machine { machine with screen } := by
  -- The screen is one part, and all others are read from other fields.
  cases part with
  | screen => exact absurd rfl apart
  | _ => rfl

/-- Other calls under way change no other part. -/
theorem same_stack (apart : part ≠ .stack) (stack : CallStack) :
    part.Same machine { machine with stack } := by
  -- Nor is any other part read from the calls.
  cases part with
  | stack => exact absurd rfl apart
  | _ => rfl

/-- Another index changes no other part. -/
theorem same_index (apart : part ≠ .index) (index : UInt16) :
    part.Same machine { machine with index } := by
  cases part with
  | index => exact absurd rfl apart
  | _ => rfl

/-- A value in the delay timer changes no other part. -/
theorem same_setDelay (apart : part ≠ .delay) (value : UInt8) :
    part.Same machine (machine.setDelay value) := by
  cases part with
  | delay => exact absurd rfl apart
  | _ => rfl

/-- A value in the sound timer changes no other part. -/
theorem same_setSound (apart : part ≠ .sound) (value : UInt8) :
    part.Same machine (machine.setSound value) := by
  cases part with
  | sound => exact absurd rfl apart
  | _ => rfl

/-- A word changes no part but those in its rows. -/
theorem same_of_effect {offered : Offer} {effect : Effect}
    (done : machine.effect offered (decode word) = .ok effect)
    (untouched : ¬ MayChange machine.index word part) : part.Same machine effect.machine := by
  -- The table of words is read row by row, next to the table of what they can change.
  rcases listed word with row | unknown
  · generalize decode word = instruction at done row
    cases row with
    | clearScreen => cases done; exact same_screen (MayChange.clearScreen.ne untouched) _
    | ret =>
      obtain ⟨address, rest, _, rfl⟩ := effect_ret_eq_ok done
      exact same_stack (MayChange.ret.ne untouched) _
    | call x y n => cases done; exact same_stack ((MayChange.call x y n).ne untouched) _
    | setValue x y n => cases done; exact same_setReg ((MayChange.setValue x y n).ne untouched) _
    | addValue x y n => cases done; exact same_setReg ((MayChange.addValue x y n).ne untouched) _
    | setIndex x y n => cases done; exact same_index ((MayChange.setIndex x y n).ne untouched) _
    | random x y n =>
      cases offered with
      -- Without a random byte the word fails.
      | error reason => cases done
      | ok byte => cases done; exact same_setReg ((MayChange.random x y n).ne untouched) _
    | readDelay x => cases done; exact same_setReg ((MayChange.readDelay x).ne untouched) _
    | awaitKey x =>
      -- Without a key nothing changes at all.
      rw [effect_awaitKey] at done
      split at done
      · cases done; exact same_setReg ((MayChange.awaitKey x).ne untouched) _
      · cases done; exact part.same_refl machine
    | setDelay x => cases done; exact same_setDelay ((MayChange.setDelay x).ne untouched) _
    | setSound x => cases done; exact same_setSound ((MayChange.setSound x).ne untouched) _
    | addIndex x => cases done; exact same_index ((MayChange.addIndex x).ne untouched) _
    | loadGlyph x => cases done; exact same_index ((MayChange.loadGlyph x).ne untouched) _
    | copy x y | union x y | intersect x y | difference x y =>
      cases done
      exact same_setReg ((MayChange.arithmetic x y _ (by decide)).ne untouched) _
    | add x y | subtract x y | shiftRight x y | subtractFrom x y | shiftLeft x y =>
      -- The flag is written, and then the result.
      cases done
      exact same_flagged ((MayChange.flag x y _ (by decide)).ne untouched)
        ((MayChange.arithmetic x y _ (by decide)).ne untouched) _ _
    | draw x y n =>
      -- A sprite has two rows in the table, one for the screen and one for the flag.
      rw [effect_draw] at done
      obtain ⟨sprite, _, rfl⟩ := map_eq_ok_iff.mp done
      exact (same_screen ((MayChange.draw x y n).ne untouched) _).trans
        (same_setReg ((MayChange.erased x y n).ne untouched) _)
    | storeDecimal x =>
      obtain ⟨_, rfl⟩ := effect_stores_eq_ok rfl done
      refine same_overlay fun address same => ?_
      -- An address that is in the range of the three digits has a row.
      by_contra inside
      have three : (decimalDigits (machine.reg x)).length = 3 := rfl
      exact untouched (same ▸ .storeDecimal x address (by omega) (by omega))
    | storeRegisters x =>
      obtain ⟨_, rfl⟩ := effect_stores_eq_ok rfl done
      refine same_overlay fun address same => ?_
      -- There are as many bytes as registers up to the one that is named.
      by_contra inside
      rw [length_take_registers] at inside
      exact untouched (same ▸ .storeRegisters x address (by omega) (by omega))
    -- Registers have a row each, up to the one that is named.
    | loadRegisters x =>
      rw [effect_loadRegisters] at done
      obtain ⟨bytes, sliced, rfl⟩ := map_eq_ok_iff.mp done
      refine same_setRegisters fun y same => ?_
      -- As many bytes are read as there are registers up to the one that is named.
      rw [Memory.length_slice sliced]
      by_contra inside
      exact untouched (same ▸ .loadRegisters x y (Fin.le_def.mpr (by omega)))
    | _ => cases done; exact part.same_refl machine
  · -- A word that is passed over changes nothing.
    rw [unknown] at done
    cases done
    exact part.same_refl machine

/-- What a cycle that does not fail leaves of a machine. -/
structure Confined (machine after : Machine) : Prop where
  /-- A part that the word cannot change is as it was. -/
  parts : ∀ part, ¬ MayChange machine.index machine.nextWord part → part.Same machine after
  /-- No word changes the keys. -/
  keypad : after.keypad = machine.keypad
  /-- No word changes the moment of the last count. -/
  lastCount : after.timers.lastCount = machine.timers.lastCount
  /-- A word of family 2 makes one call. -/
  call : ∀ x y n, machine.nextWord = toWord ⟨0x2, x, y, n⟩ →
    after.stack = machine.stack.push (machine.pc + 2)
  /-- A return ends one. -/
  ret : machine.nextWord = 0x00EE → ∃ address, machine.stack = after.stack.push address
  /-- A word that is passed over changes the program counter and the record, and nothing else. -/
  unknown : decode machine.nextWord = .unknown machine.nextWord →
    after = { machine.noted with pc := machine.pc + 2 }

/-- The program counter is not one of the parts, so it makes no difference where it goes. -/
theorem Part.Same.with_pc (same : part.Same machine after) (pc : UInt16) :
    part.Same machine { after with pc } := by
  cases part <;> exact same

/-- What the next word cannot change is the same once it is carried out. -/
theorem same_of_attempt {offered : Offer} {effect : Effect}
    (done : machine.attempt offered = .ok effect)
    (untouched : ¬ MayChange machine.index machine.nextWord part) :
    part.Same machine effect.machine := by
  -- What the word finds done already, the record and the program counter, is not one of the parts.
  have same : part.Same machine.underway effect.machine := same_of_effect done untouched
  cases part <;> exact same

/-- A word that does not fail keeps to its rows. -/
theorem confined_of_attempt {offered : Offer} {effect : Effect}
    (done : machine.attempt offered = .ok effect) :
    machine.Confined { effect.machine with pc := effect.flow.target machine.pc } where
  parts part untouched := (same_of_attempt done untouched).with_pc _
  keypad := same_of_attempt done not_mayChange_keypad
  lastCount := same_of_attempt done not_mayChange_lastCount
  -- The words that make a call or end one are told by their rows.
  call x y n word := by
    rw [attempt, word, (Opcode.call x y n).decode_eq] at done
    cases done
    rfl
  ret word := by
    rw [attempt, word, Opcode.ret.decode_eq] at done
    obtain ⟨address, rest, called, rfl⟩ := effect_ret_eq_ok done
    exact ⟨address, congrArg CallStack.mk called⟩
  unknown passed := by
    rw [attempt, passed] at done
    cases done
    rfl

/-- A cycle that does not fail keeps to the rows of its word. -/
theorem confined_of_cycle {offered : Offer} (running : machine.halted = false)
    (succeeded : (machine.cycle offered).failure = none) :
    machine.Confined (machine.cycle offered).state := by
  -- A cycle that succeeds is the effect of its word, with the program counter moved on.
  obtain ⟨effect, done, cycled⟩ := exists_effect_of_cycle running succeeded
  rw [cycled]
  exact confined_of_attempt done

end ChipEight.Machine
