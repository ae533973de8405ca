import ChipEight.Machine.Execute

/-! One instruction after the other: fetch, carry out, go on, and let the timers count. -/

namespace ChipEight.Machine

/-- The instruction word at the program counter. -/
def fetch (machine : Machine) : Except Fault UInt16 := machine.memory.fetch machine.pc.toNat

/-- The machine with a record of a word at the program counter, which moves on past it. -/
def begin (machine : Machine) (word : UInt16) : Machine :=
  { machine with lastWord := word, lastAddress := machine.pc, pc := machine.pc + 2 }

/-- The machine where the program goes on after an instruction that began at an address. -/
def follow (machine : Machine) (address : UInt16) : Flow → Machine
  | .next => machine
  | .skip => { machine with pc := machine.pc + 2 }
  | .jump target => { machine with pc := target }
  | .again => { machine with pc := address }

/--
One instruction, given the answer that the random source has ready. A machine that has halted does
nothing. The program counter goes back to an instruction that fails, and nothing else is undone.
-/
def cycle (machine : Machine) (offered : Offer) : Outcome Fault Machine :=
  if machine.halted then { state := machine }
  else
    match machine.fetch with
    | .error fault => { state := machine, failure := some fault }
    | .ok word =>
      match execute offered (Instruction.decode word) (machine.begin word) with
      | .ok flow after => { state := after.follow machine.pc flow }
      | .error fault after => { state := { after with pc := machine.pc }, failure := some fault }

/-- One instruction and then, if it did not fail, a look of the timers at the clock. -/
def step (machine : Machine) (offered : Offer) (now : Nat) : Outcome Fault Machine :=
  if machine.halted then { state := machine }
  else
    let outcome := machine.cycle offered
    match outcome.failure with
    | some _ => outcome
    | none =>
      { state := { outcome.state with timers := outcome.state.timers.update now } }

/-- The instruction that the next cycle will carry out, if there is one. -/
def upcoming? (machine : Machine) : Option (UInt16 × Instruction (Fin registerCount)) :=
  if machine.halted then none
  else machine.fetch.toOption.map fun word => (word, Instruction.decode word)

end ChipEight.Machine
