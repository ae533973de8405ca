import ChipEight.Proofs.Console.Steps
import ChipEight.Proofs.Console.Usage
import ChipEight.Proofs.Machine.Calls
import ChipEight.Proofs.Machine.Sound

/-! How far the program counter and the calls can go, whatever is done with a console. -/

namespace ChipEight

namespace Machine

variable {machine : Machine} {offered : Offer}

/-- The addresses that a program can get to. An indexed jump leads furthest. -/
structure Bounded (machine : Machine) : Prop where
  pc : machine.pc.toNat ≤ 0x10FE
  lastAddress : machine.lastAddress.toNat ≤ 0x0FFE
  frames : ∀ frame ∈ machine.stack.frames, 2 ≤ frame.toNat ∧ frame.toNat ≤ 0x1000

/-- A machine that has carried out nothing starts well inside. -/
theorem bounded_of_start (pc : machine.pc = 0x200) (lastAddress : machine.lastAddress = 0)
    (stack : machine.stack = {}) : machine.Bounded where
  pc := by rw [pc]; decide
  lastAddress := by rw [lastAddress]; decide
  frames := by rw [stack]; exact nofun

/-- What stands in memory is of no matter to the bounds. -/
theorem Bounded.withMemory (bounded : machine.Bounded) (memory : Memory) :
    { machine with memory }.Bounded :=
  ⟨bounded.pc, bounded.lastAddress, bounded.frames⟩

/-- Neither the address behind a word that is carried out wraps around nor the one after it. -/
theorem toNat_onward {address : UInt16} (near : address.toNat ≤ 0x10FE) :
    (address + 2).toNat = address.toNat + 2 ∧ (address + 4).toNat = address.toNat + 4 := by
  have two : (2 : UInt16).toNat = 2 := rfl
  have four : (4 : UInt16).toNat = 4 := rfl
  rw [UInt16.toNat_add, UInt16.toNat_add]
  -- The sums are far below what is cut off.
  omega

/-- A word that is carried out leads to an address within the bounds. -/
theorem target_le {effect : Effect} (bounded : machine.Bounded)
    (inside : machine.pc.toNat ≤ 0x0FFE) (done : machine.attempt offered = .ok effect) :
    (effect.flow.target machine.pc).toNat ≤ 0x10FE := by
  -- The five ways on are taken one by one, each with an address that has a bound.
  have onward := toNat_onward bounded.pc
  have left := departure_of_effect done
  generalize decoded : Instruction.decode machine.nextWord = instruction at left
  have named {target : UInt16} (names : instruction.destination? = some target) :
      target.toNat < 0x1000 :=
    Instruction.lt_of_destination? (decoded ▸ names)
  cases left with
  | onward flow =>
    -- The word was in memory, so the next two are at most right behind it.
    rcases flow with next | skip
    · rw [next, Flow.target]
      omega
    · rw [skip, Flow.target]
      omega
  -- A word names an address of three digits.
  | jump target | call target =>
    have low := named rfl
    rw [Flow.target]
    omega
  | jumpIndexed base =>
    -- A byte is added to an address of three digits.
    have low := named rfl
    have byte := (machine.underway.reg jumpRegister).toNat_lt
    rw [Flow.target, UInt16.toNat_add, UInt8.toNat_toUInt16]
    omega
  | awaitKey x free => exact bounded.pc
  | ret address rest called =>
    -- The invariant speaks of the calls because a return goes wherever one of them came from.
    have listed : address ∈ machine.stack.frames := called ▸ List.mem_cons_self
    have back := bounded.frames address listed
    rw [Flow.target]
    omega

/-- A call that is made comes back behind a word that was carried out. -/
theorem frames_step (bounded : machine.Bounded) (inside : machine.pc.toNat ≤ 0x0FFE)
    (offered : Offer) (now : Nat) :
    ∀ frame ∈ (machine.step offered now).state.stack.frames,
      2 ≤ frame.toNat ∧ frame.toNat ≤ 0x1000 := by
  have calling := machine.calling_of_step offered now
  generalize (machine.step offered now).state.stack = stack at calling ⊢
  intro frame listed
  cases calling with
  | within => exact bounded.frames frame listed
  | call =>
    rcases List.mem_cons.mp listed with rfl | earlier
    · -- The new call comes back behind a word that was in memory.
      rw [(toNat_onward bounded.pc).1]
      omega
    · exact bounded.frames frame earlier
  | ret latest =>
    -- The calls that are left were under way before.
    refine bounded.frames frame ?_
    rw [latest]
    exact List.mem_cons_of_mem _ listed

/-- A step stays within the bounds. -/
theorem Bounded.step (bounded : machine.Bounded) (offered : Offer) (now : Nat) :
    (machine.step offered now).state.Bounded := by
  cases running : machine.halted with
  | true => rw [step_of_halted running]; exact bounded
  | false =>
    have inside := halted_eq_false_iff.mp running
    have frames := frames_step bounded inside offered now
    cases done : machine.attempt offered with
    -- A word that failed is only put on record.
    | error fault =>
      rw [step_of_error running done] at frames ⊢
      exact ⟨bounded.pc, inside, frames⟩
    | ok effect =>
      rw [step_of_ok running done] at frames ⊢
      -- The record has the address of the word.
      have recorded : effect.machine.lastAddress = machine.pc := (effect_keeps done).2.1
      exact ⟨target_le bounded inside done, recorded ▸ inside, frames⟩

/-- A return that does not fail goes back to an address at most the end of memory. -/
theorem pc_le_of_return (bounded : machine.Bounded) (running : machine.halted = false)
    (word : machine.nextWord = 0x00EE) (succeeded : (machine.cycle offered).failure = none) :
    (machine.cycle offered).state.pc.toNat ≤ 0x1000 := by
  cases called : machine.stack.frames with
  | nil =>
    -- Without a call the return would have failed.
    have failed : machine.attempt offered = .error .stackUnderflow := by
      rw [attempt, word, Instruction.Opcode.ret.decode_eq, effect_eq_error_iff]
      exact .underflow called
    rw [cycle_of_error running failed] at succeeded
    cases succeeded
  | cons address rest =>
    have listed : address ∈ machine.stack.frames := called ▸ List.mem_cons_self
    have latest : machine.stack = CallStack.push ⟨rest⟩ address := congrArg CallStack.mk called
    rw [cycle_of_ok running (attempt_of_return word latest offered)]
    exact (bounded.frames address listed).2

end Machine

namespace Console

open Nibbles

/-- No use of a console leads out of the bounds. -/
theorem bounded_use (console : Console) (use : Use console) (bounded : console.machine.Bounded) :
    use.outcome.state.machine.Bounded := by
  have handled := use.handled
  generalize use.outcome.state.machine = machine at handled ⊢
  -- Of all that a use can do to the machine, only a step moves the program counter on.
  cases handled with
  | stepped now => exact bounded.step _ now
  | restarted _ now | booted _ now =>
    -- The program counter starts anew and the calls are forgotten.
    exact Machine.bounded_of_start rfl rfl rfl
  | loaded | written => exact bounded.withMemory _
  | kept | keyed | sounded => exact ⟨bounded.pc, bounded.lastAddress, bounded.frames⟩

/-- No number of uses leads out of the bounds. -/
theorem bounded_usage {start later : Console} (usage : Usage start later)
    (bounded : start.machine.Bounded) : later.machine.Bounded := by
  -- The bounds are an invariant, so they hold as long as each use keeps them.
  induction usage with
  | nothing => exact bounded
  | andThen before use ih => exact bounded_use _ use ih

/--
No machine makes a cycle break down: every access is within its bounds, every sum fits in its bits,
and there is a word to be fetched. Whatever is done with a console from the moment at which it is
switched on, the program counter, the record and the calls stay within bounds, so that the program
counter never wraps around and a return never leads behind the end of memory.
-/
theorem cycle_checked_counter_bounded :
    (∀ (machine : Machine) (offered : Offer),
      Guarded.cycle machine offered = .ok (machine.cycle offered) ∧
        (machine.halted = false → machine.fetch = .ok machine.nextWord)) ∧
    ∀ {start later : Console} (now : Nat), start.machine = Machine.switchedOn now →
      Usage start later →
        later.machine.pc ≤ 0x10FE ∧ later.machine.lastAddress ≤ 0x0FFE ∧
        (∀ frame ∈ later.machine.stack.frames, 2 ≤ frame ∧ frame ≤ 0x1000) ∧
        (later.machine.pc + 2).toNat = later.machine.pc.toNat + 2 ∧
        (later.machine.pc + 4).toNat = later.machine.pc.toNat + 4 ∧
        ∀ offered, later.machine.halted = false → later.machine.nextWord = 0x00EE →
          (later.machine.cycle offered).failure = none →
          (later.machine.cycle offered).state.pc ≤ 0x1000 := by
  constructor
  · intro machine offered
    exact ⟨Guarded.cycle_eq machine offered, Machine.fetch_of_running⟩
  · intro start later now on usage
    have bounded : later.machine.Bounded :=
      bounded_usage usage (on ▸ Machine.bounded_of_start rfl rfl rfl)
    obtain ⟨next, skip⟩ := Machine.toNat_onward bounded.pc
    simp only [UInt16.le_iff_toNat_le]
    exact ⟨bounded.pc, bounded.lastAddress, bounded.frames, next, skip,
      fun offered running word succeeded => Machine.pc_le_of_return bounded running word succeeded⟩

/-- A program that was loaded calls a subroutine, and the return from it stays in memory. -/
theorem cycle_checked_counter_bounded_return :
    let start := around (Machine.switchedOn 7)
    let program : Use start := .load (.ofList [0x22, 0x04, 0x00, 0x00, 0x00, 0xEE])
    let called := (Use.step 7 : Use program.outcome.state).outcome.state
    called.machine.stack.frames = [0x202] ∧
      (∀ frame ∈ called.machine.stack.frames, 2 ≤ frame ∧ frame ≤ 0x1000) ∧
      Guarded.cycle called.machine (.ok 0) = .ok (called.machine.cycle (.ok 0)) ∧
      (called.machine.cycle (.ok 0)).failure = none ∧
      (called.machine.cycle (.ok 0)).state.pc ≤ 0x1000 := by
  intro start program called
  have on : program.outcome.state.machine =
      Machine.booted 7 (.ofList [0x22, 0x04, 0x00, 0x00, 0x00, 0xEE]) .released := by
    have fits : (Bytes.ofList [0x22, 0x04, 0x00, 0x00, 0x00, 0xEE]).size ≤ maxRomSize := by decide
    exact machine_load_switchedOn rfl fits
  -- The first word calls the one behind the next, which is a return.
  have word : program.outcome.state.machine.nextWord = toWord ⟨0x2, 0x2, 0x0, 0x4⟩ := by
    rw [on]
    exact Machine.nextWord_booted 7 _ .released
  have calls : called.machine = (program.outcome.state.step 7).state.machine := rfl
  rw [(step_machine program.outcome.state 7).2,
    Machine.step_of_call (by rw [on]; rfl) word] at calls
  have returns : called.machine.nextWord = 0x00EE := by
    rw [calls, on]
    -- The call leaves memory as it was loaded.
    exact (Machine.wordAt_booted 7 _ .released 4 (by decide)).trans (by decide)
  have under_way : called.machine.stack = CallStack.push {} 0x202 := by rw [calls, on]; rfl
  have running : called.machine.halted = false := by rw [calls]; rfl
  have succeeded : (called.machine.cycle (.ok 0)).failure = none := by
    rw [Machine.cycle_of_ok running (Machine.attempt_of_return returns under_way (.ok 0))]
  let usage : Usage start called := .andThen (.andThen .nothing program) (.step 7)
  obtain ⟨cycles, uses⟩ := cycle_checked_counter_bounded
  obtain ⟨_, _, frames, _, _, back⟩ := uses 7 rfl usage
  exact ⟨congrArg CallStack.frames under_way, frames, (cycles _ (.ok 0)).1, succeeded,
    back (.ok 0) running returns succeeded⟩

end Console

end ChipEight
