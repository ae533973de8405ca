import ChipEight.Machine.Cycle
import ChipEight.Proofs.Machine.Execute

/-! A step told by what its word does: nothing after the end, a recorded failure, or an effect. -/

namespace ChipEight

/-- The word spelled by the byte at an address and the one after it, zero standing for no byte. -/
def Memory.wordAt (memory : Memory) (address : Nat) : UInt16 :=
  wordOf (memory.cells[address]?.getD 0) (memory.cells[address + 1]?.getD 0)

/-- A word that fits in memory is fetched from its two bytes. -/
theorem Memory.fetch_of_fits {memory : Memory} {address : Nat} (fits : Fits address 2) :
    memory.fetch address = .ok (memory.wordAt address) := by
  have within : address + 2 ≤ memorySize := fits
  -- Both bytes lie in memory, so neither is replaced by zero.
  have first : memory.cells[address]? = some memory.cells[address] :=
    Vector.getElem?_eq_getElem (by omega)
  have second : memory.cells[address + 1]? = some memory.cells[address + 1] :=
    Vector.getElem?_eq_getElem (by omega)
  rw [fetch, dif_pos fits, wordAt, first, second]
  rfl

/-- A word is the same where its two bytes are. -/
theorem Memory.wordAt_congr {memory other : Memory} {address : Nat}
    (high : other.read address = memory.read address)
    (low : other.read (address + 1) = memory.read (address + 1)) :
    other.wordAt address = memory.wordAt address := by
  -- The bytes of a word are what is read at both addresses.
  simp only [wordAt, ← toOption_read, high, low]

/-- A word is made of what is read at its address and at the next one. -/
theorem Memory.wordAt_of_read {memory : Memory} {address : Nat} {high low : UInt8}
    (first : memory.read address = .ok high) (second : memory.read (address + 1) = .ok low) :
    memory.wordAt address = wordOf high low := by
  simp only [wordAt, ← toOption_read, first, second]
  rfl

/-- The address at which a program goes on after the instruction at an address. -/
def Flow.target (flow : Flow) (address : UInt16) : UInt16 :=
  match flow with
  | next => address + 2
  | skip => address + 4
  | jump target => target
  | again => address

namespace Machine

/-- The word that the next step carries out. -/
def nextWord (machine : Machine) : UInt16 := machine.memory.wordAt machine.pc.toNat

/-- The machine with the word that it carries out next already in its record. -/
def noted (machine : Machine) : Machine :=
  { machine with lastWord := machine.nextWord, lastAddress := machine.pc }

/-- The machine as the next word finds it, which is on record and behind the program counter. -/
def underway (machine : Machine) : Machine := machine.begin machine.nextWord

/-- The outcome of the word that the next step carries out. -/
def attempt (machine : Machine) (offered : Offer) : Except Fault Effect :=
  machine.underway.effect offered (Instruction.decode machine.nextWord)

/-- From behind an instruction the program counter goes to where the program goes on. -/
theorem follow_eq {machine : Machine} {address : UInt16} (behind : machine.pc = address + 2)
    (flow : Flow) : machine.follow address flow = { machine with pc := flow.target address } := by
  -- Two flows go on from behind the instruction, and two have an address of their own.
  cases flow with
  | next => rw [follow, Flow.target, ← behind]
  | skip =>
    -- One instruction was passed already.
    have twice : machine.pc + 2 = address + 4 := by rw [behind, UInt16.add_assoc]; rfl
    rw [follow, Flow.target, twice]
  | jump _ | again => rfl

/-- A machine goes on as long as a whole word fits at its next address. -/
theorem halted_eq_false_iff {machine : Machine} :
    machine.halted = false ↔ machine.pc.toNat ≤ 0x0FFE := by
  -- The comparison of words is that of their numbers.
  simp [halted, lastWordAddress, UInt16.lt_iff_toNat_lt]

/-- A machine whose program counter leaves room for a word goes on. -/
theorem halted_eq_false_of_le {machine : Machine} (inside : machine.pc ≤ 0x0FFE) :
    machine.halted = false :=
  halted_eq_false_iff.mpr (UInt16.le_iff_toNat_le.mp inside)

/-- A machine that goes on fetches its next word. -/
theorem fetch_of_running {machine : Machine} (running : machine.halted = false) :
    machine.fetch = .ok machine.nextWord := by
  have inside := halted_eq_false_iff.mp running
  -- The highest address of a program that goes on leaves room for one word.
  apply Memory.fetch_of_fits
  show machine.pc.toNat + 2 ≤ 0x1000
  omega

/-- A machine that ran off the end stays as it is. -/
theorem step_of_halted {machine : Machine} {offered : Offer} {now : Nat}
    (halted : machine.halted = true) : machine.step offered now = { state := machine } := by
  rw [step, if_pos halted]

/-- A cycle carries its word out, and goes back to it if it failed. -/
theorem cycle_of_running {machine : Machine} {offered : Offer}
    (running : machine.halted = false) :
    machine.cycle offered =
      match machine.attempt offered with
      | .ok effect => { state := effect.machine.follow machine.pc effect.flow }
      | .error fault => { state := machine.noted, failure := some fault } := by
  simp only [cycle, running, fetch_of_running running, Bool.false_eq_true, if_false]
  -- A word that failed has left all but the record and the program counter as it was.
  have begun : machine.begin machine.nextWord = machine.underway := rfl
  rw [begun, execute_eq, attempt]
  cases machine.underway.effect offered (Instruction.decode machine.nextWord) <;> rfl

/-- A word that fails is recorded, and nothing else is left of it. -/
theorem cycle_of_error {machine : Machine} {offered : Offer} {fault : Fault}
    (running : machine.halted = false) (failed : machine.attempt offered = .error fault) :
    machine.cycle offered = { state := machine.noted, failure := some fault } := by
  -- The record is made before the word is carried out, so it stays.
  rw [cycle_of_running running, failed]

/-- A word that fails in a step is recorded, and the timers do not look at the clock. -/
theorem step_of_error {machine : Machine} {offered : Offer} {now : Nat} {fault : Fault}
    (running : machine.halted = false) (failed : machine.attempt offered = .error fault) :
    machine.step offered now = { state := machine.noted, failure := some fault } := by
  -- A cycle that failed is all there is to the step.
  simp only [step, running, cycle_of_error running failed, Bool.false_eq_true, if_false]

/-- The machine after a word that did not fail. -/
def settled (machine : Machine) (effect : Effect) (now : Nat) : Machine :=
  { effect.machine with
    pc := effect.flow.target machine.pc
    timers := effect.machine.timers.update now }

/-- A word that does not fail leaves its effect. -/
theorem cycle_of_ok {machine : Machine} {offered : Offer} {effect : Effect}
    (running : machine.halted = false) (done : machine.attempt offered = .ok effect) :
    machine.cycle offered =
      { state := { effect.machine with pc := effect.flow.target machine.pc } } := by
  -- No instruction moves the program counter by itself.
  have behind : effect.machine.pc = machine.pc + 2 := (effect_keeps done).2.2.1
  rw [cycle_of_running running, done]
  simp only [follow_eq behind]

/-- A cycle that does not fail carried its word out. -/
theorem exists_effect_of_cycle {machine : Machine} {offered : Offer}
    (running : machine.halted = false) (succeeded : (machine.cycle offered).failure = none) :
    ∃ effect, machine.attempt offered = .ok effect ∧ machine.cycle offered =
      { state := { effect.machine with pc := effect.flow.target machine.pc } } := by
  cases done : machine.attempt offered with
  | error fault =>
    -- The failure of the word is that of the cycle.
    rw [cycle_of_error running done] at succeeded
    cases succeeded
  | ok effect => exact ⟨effect, rfl, cycle_of_ok running done⟩

/-- A word that does not fail in a step leaves its effect, and then the timers look at the clock. -/
theorem step_of_ok {machine : Machine} {offered : Offer} {now : Nat} {effect : Effect}
    (running : machine.halted = false) (done : machine.attempt offered = .ok effect) :
    machine.step offered now = { state := machine.settled effect now } := by
  -- The timers that count are those that the instruction left.
  simp only [step, running, cycle_of_ok running done, Bool.false_eq_true, if_false, settled]

/-- All that a step can be. -/
inductive Stepped (machine : Machine) (offered : Offer) (now : Nat) :
    Outcome Fault Machine → Prop where
  /-- The program ran off the end before. -/
  | halted (halted : machine.halted = true) : Stepped machine offered now { state := machine }
  /-- The word failed. -/
  | failed {fault : Fault} (running : machine.halted = false)
      (failed : machine.attempt offered = .error fault) :
    Stepped machine offered now { state := machine.noted, failure := some fault }
  /-- The word was carried out. -/
  | done {effect : Effect} (running : machine.halted = false)
      (done : machine.attempt offered = .ok effect) :
    Stepped machine offered now { state := machine.settled effect now }

/-- A step is one of three. -/
theorem stepped (machine : Machine) (offered : Offer) (now : Nat) :
    Stepped machine offered now (machine.step offered now) := by
  -- The end of the program is looked at first, and then the word.
  cases running : machine.halted with
  | true =>
    rw [step_of_halted running]
    exact .halted running
  | false =>
    cases done : machine.attempt offered with
    | error fault =>
      rw [step_of_error running done]
      exact .failed running done
    | ok effect =>
      rw [step_of_ok running done]
      exact .done running done

end Machine

end ChipEight
