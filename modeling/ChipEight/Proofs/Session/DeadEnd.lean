import ChipEight.Proofs.Instruction.Opcode
import ChipEight.Proofs.Machine.Reachable
import ChipEight.Proofs.Session.Account

/-! The dead ends that a run sees, and the one that keeps it running for ever. -/

namespace ChipEight

open Nibbles Instruction

namespace Machine

/-- The next word jumps to its own address by way of the register that indexed jumps add. -/
def IndexedSelfJump (machine : Machine) : Prop :=
  machine.pc ≤ 0x0FFE ∧ ∃ x y n : Fin 16, machine.nextWord = toWord ⟨0xB, x, y, n⟩ ∧
    0x100 * x + 0x10 * y + n + (machine.reg jumpRegister).toNat = machine.pc.toNat

/-- An indexed jump goes to the sum as it is, since no such sum is too large for an address. -/
theorem indexed_target_eq_iff {x y n : Fin 16} {value : UInt8} {target : UInt16} :
    address ⟨0xB, x, y, n⟩ + value.toUInt16 = target ↔
      0x100 * x + 0x10 * y + n + value.toNat = target.toNat := by
  have first := x.isLt
  have second := y.isLt
  have third := n.isLt
  have small := value.toNat_lt
  rw [← UInt16.toNat_inj, UInt16.toNat_add, toNat_address, UInt8.toNat_toUInt16]
  -- The largest sum is 0xFFF and 0xFF.
  have within : 0x100 * x.val + 0x10 * y.val + n.val + value.toNat < 0x10000 := by omega
  rw [Nat.mod_eq_of_lt within]

/-- The dead ends that nobody looks for are the indexed jumps to themselves. -/
theorem indexedSelfJump_iff {machine : Machine} :
    machine.IndexedSelfJump ↔ machine.DeadEnd none := by
  constructor
  · rintro ⟨running, x, y, n, word, target⟩
    -- The word is the row of the table for indexed jumps.
    have decoded : decode machine.nextWord = .jumpIndexed (address ⟨0xB, x, y, n⟩) := by
      rw [word]
      exact (Opcode.jumpIndexed x y n).decode_eq
    exact .indexedJump (halted_eq_false_iff.mpr running) _ decoded
      (indexed_target_eq_iff.mpr target)
  · intro deadEnd
    cases deadEnd with
    | indexedJump running base word target =>
      -- One row of the table has such jumps.
      have known : decode machine.nextWord ≠ .unknown machine.nextWord := by
        rw [word]
        exact nofun
      have row := (decode_eq_iff known).mp rfl
      rw [word] at row
      generalize spelled : machine.nextWord = next at row
      cases row with
      | jumpIndexed x y n =>
        exact ⟨halted_eq_false_iff.mp running, x, y, n, spelled,
          indexed_target_eq_iff.mp target⟩

/-- Two reasons cannot be seen at the same dead end. -/
theorem DeadEnd.unique {machine : Machine} {seen other : Option Stall}
    (deadEnd : machine.DeadEnd seen) (again : machine.DeadEnd other) : seen = other :=
  deadEnd.stall?_resting.symm.trans again.stall?_resting

end Machine

namespace Console

variable {console : Console} {times : Nat → Nat} {count : Nat} {seen : Option Stall}

/-- A number of plain steps, none of which fails, that lead to a dead end. -/
structure EndsAt (console : Console) (times : Nat → Nat) (count : Nat) (seen : Option Stall) :
    Prop where
  succeeded : (console.plainSteps times count 0).failure = none
  deadEnd : (console.plainSteps times count 0).state.machine.DeadEnd seen

/-- A step that succeeds and leaves all as it was is done at a dead end. -/
theorem endsAt_of_unmoved
    (succeeded : (console.plainSteps times (count + 1) 0).failure = none)
    (unmoved : (console.plainSteps times count 0).state.machine.Unmoved
      (console.plainSteps times (count + 1) 0).state.machine) :
    ∃ seen, console.EndsAt times count seen := by
  -- The last of the steps is a step of the machine that the others left.
  have earlier := plainSteps_ok_of_le (Nat.le_succ count) succeeded
  rw [plainSteps_succ_last earlier] at succeeded unmoved
  -- Only four kinds of instruction leave a machine as it was.
  obtain ⟨seen, deadEnd⟩ := Machine.deadEnd_of_unmoved succeeded unmoved
  exact ⟨seen, earlier, deadEnd⟩

/-- After a dead end no step fails, and only the timers go on. -/
theorem EndsAt.rests (ends : console.EndsAt times count seen) {more : Nat} (later : count < more) :
    (console.plainSteps times more 0).failure = none ∧
      ∃ timers, (console.plainSteps times more 0).state.machine =
        { (console.plainSteps times count 0).state.machine.resting with timers } := by
  obtain ⟨rest, rfl⟩ := Nat.exists_eq_add_of_lt later
  rw [Nat.add_assoc, plainSteps_add_of_ok (rest + 1) ends.succeeded]
  -- From the dead end on every step is the same.
  exact plainSteps_of_deadEnd ends.deadEnd times rest (0 + count)

/-- No step fails before a dead end or after it. -/
theorem EndsAt.never_fails (ends : console.EndsAt times count seen) (other : Nat) :
    (console.plainSteps times other 0).failure = none := by
  rcases Nat.lt_or_ge count other with later | earlier
  · exact (ends.rests later).1
  · exact plainSteps_ok_of_le earlier ends.succeeded

/-- The watch sees the same of a dead end after each step. -/
theorem EndsAt.stall?_eq (ends : console.EndsAt times count seen) {more : Nat}
    (later : count < more) : (console.plainSteps times more 0).state.machine.stall? = seen := by
  obtain ⟨_, timers, final⟩ := ends.rests later
  -- The watch does not look at the timers.
  rw [final]
  exact ends.deadEnd.stall?_resting

/-- A dead end that nobody looks for is not seen at any time. -/
theorem EndsAt.never_seen (ends : console.EndsAt times count none)
    (recorded : console.machine.Recorded) (other : Nat) :
    (console.plainSteps times other 0).state.machine.stall? = none := by
  rcases Nat.lt_or_ge count other with later | earlier
  · exact ends.stall?_eq later
  · -- A stall that was seen before would be another dead end at the same instruction.
    cases stalled : (console.plainSteps times other 0).state.machine.stall? with
    | none => rfl
    | some why =>
      obtain ⟨_, still⟩ := stall_lasts recorded (ends.never_fails other) stalled earlier
      obtain ⟨another, _⟩ :=
        Machine.deadEnd_of_stalled (recorded_plainSteps recorded times count 0) still
      exact another.unique ends.deadEnd

end Console

namespace Session

variable {session : Session} {times : Nat → Nat} {count : Nat}

/-- A run ends with the tick that comes to a dead end that can be seen, if not before. -/
theorem runFor_of_endsAt_some {why : Stall}
    (ends : session.console.EndsAt times count (some why)) (positive : 0 < session.stepsPerTick)
    {allowance : Nat} (enough : count / session.stepsPerTick < allowance) :
    (∃ cause, (session.runFor times allowance 0).ending = .stalled cause) ∧
      (session.runFor times allowance 0).ticks ≤ count / session.stepsPerTick + 1 := by
  have account := (keeps_start session times).account allowance
  generalize session.runFor times allowance 0 = run at account ⊢
  -- The tick that comes to the dead end has been through it at its own end.
  have through : count < (count / session.stepsPerTick + 1) * session.stepsPerTick := by
    rw [Nat.mul_comm]
    exact Nat.lt_mul_div_succ count positive
  have seen := ends.stall?_eq through
  cases account with
  | spent ending ticks succeeded console onward =>
    -- That tick was allowed, so the stall was seen.
    rw [onward _ (Nat.succ_pos _) (by omega)] at seen
    cases seen
  | stalled cause ending later allowed succeeded console stalled onward =>
    -- A later tick cannot be the first at which a stall was seen.
    refine ⟨⟨cause, ending⟩, Nat.le_of_not_lt fun missed => ?_⟩
    rw [onward _ (Nat.succ_pos _) missed] at seen
    cases seen
  | failed cause ending allowed failed address console =>
    rw [ends.never_fails] at failed
    cases failed

/-- A run spends all of its allowance at a dead end that nobody looks for. -/
theorem runFor_of_endsAt_none (recorded : session.console.machine.Recorded)
    (ends : session.console.EndsAt times count none) (allowance : Nat) :
    (session.runFor times allowance 0).ending = .allowanceSpent ∧
      (session.runFor times allowance 0).ticks = allowance :=
  runFor_of_unseen ends.never_fails (ends.never_seen recorded) allowance

/--
A step that succeeds and leaves all as it was is the first of as many such steps as are asked for.
It is seen as a stall, and ends a run without a limit with its own tick at the latest, unless it was
an indexed jump to itself, at which a run without a limit goes on for ever.
-/
theorem unmoved_seen_unless_indexed (session : Session)
    (reached : session.console.machine.Reachable) (times : Nat → Nat) (count : Nat)
    (succeeded : (session.console.plainSteps times (count + 1) 0).failure = none)
    (unmoved : (session.console.plainSteps times count 0).state.machine.Unmoved
      (session.console.plainSteps times (count + 1) 0).state.machine) :
    (∀ more, count < more → (session.console.plainSteps times more 0).failure = none ∧
      (session.console.plainSteps times count 0).state.machine.Unmoved
        (session.console.plainSteps times more 0).state.machine) ∧
    ((session.console.plainSteps times (count + 1) 0).state.machine.stall? = none ↔
      (session.console.plainSteps times count 0).state.machine.IndexedSelfJump) ∧
    (¬ (session.console.plainSteps times count 0).state.machine.IndexedSelfJump →
      0 < session.stepsPerTick → ∀ patience, count / session.stepsPerTick < patience →
      (∃ why, (session.run times 0 patience).ending = .stalled why) ∧
        (session.run times 0 patience).ticks ≤ count / session.stepsPerTick + 1) ∧
    ((session.console.plainSteps times count 0).state.machine.IndexedSelfJump →
      ∀ patience, (session.run times 0 patience).ending = .allowanceSpent ∧
        (session.run times 0 patience).ticks = patience) := by
  obtain ⟨seen, ends⟩ := Console.endsAt_of_unmoved succeeded unmoved
  have stall := ends.stall?_eq (Nat.lt_succ_self count)
  -- Of the four dead ends, the indexed jump is the one that is seen as nothing.
  have unseen_iff :
      (session.console.plainSteps times count 0).state.machine.IndexedSelfJump ↔ seen = none := by
    rw [Machine.indexedSelfJump_iff]
    constructor
    · exact fun indexed => ends.deadEnd.unique indexed
    · rintro rfl
      exact ends.deadEnd
  refine ⟨?_, ?_, ?_, ?_⟩
  · intro more later
    -- Only the record and the timers change at rest.
    obtain ⟨lasting, timers, final⟩ := ends.rests later
    rw [final]
    exact ⟨lasting, Machine.unmoved_resting _ timers⟩
  · rw [unseen_iff, stall]
  · intro other positive patience enough
    rw [run_unlimited]
    cases seen with
    | none => exact absurd (unseen_iff.mpr rfl) other
    -- The others are seen, and the run ends with their tick at the latest.
    | some why => exact runFor_of_endsAt_some ends positive enough
  · intro indexed patience
    rw [run_unlimited]
    cases unseen_iff.mp indexed
    exact runFor_of_endsAt_none reached.recorded ends patience

/-- An indexed jump to itself at the start is not seen, and a run goes on as long as it may. -/
theorem unmoved_seen_unless_indexed_start :
    let session : Session :=
      { console := .around (.booted 0 (.ofList [0xB2, 0x00]) .released), stepsPerTick := 1 }
    session.console.machine.Reachable ∧
      (session.console.plainSteps id 1 0).failure = none ∧
      session.console.machine.Unmoved (session.console.plainSteps id 1 0).state.machine ∧
      (session.console.plainSteps id 1 0).state.machine.stall? = none ∧
      (session.run id 0 1000).ending = .allowanceSpent := by
  intro session
  have fresh : session.console.machine.Fresh :=
    Machine.fresh_iff.mpr ⟨0, .ofList [0xB2, 0x00], .released, by decide, rfl⟩
  have word : session.console.machine.nextWord = 0xB200 := Machine.nextWord_booted 0 _ _
  -- The base is the address of the jump, and the register that is added is zero.
  have indexed : session.console.machine.IndexedSelfJump := by
    refine ⟨by decide, 0x2, 0x0, 0x0, word, ?_⟩
    rfl
  -- A step at this jump comes to itself again.
  obtain ⟨succeeded, timers, final⟩ :=
    Console.plainSteps_of_deadEnd (Machine.indexedSelfJump_iff.mp indexed) id 0 0
  have unmoved : session.console.machine.Unmoved
      (session.console.plainSteps id 1 0).state.machine := by
    rw [final]
    exact Machine.unmoved_resting _ timers
  obtain ⟨_, unseen, _, forever⟩ :=
    unmoved_seen_unless_indexed session (.fresh fresh) id 0 succeeded unmoved
  exact ⟨.fresh fresh, succeeded, unmoved, unseen.mpr indexed, (forever indexed 1000).1⟩

end Session

end ChipEight
