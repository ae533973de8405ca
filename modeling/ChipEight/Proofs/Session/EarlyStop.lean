import ChipEight.Proofs.Fault.Message
import ChipEight.Proofs.Machine.Failure
import ChipEight.Proofs.Machine.Reachable
import ChipEight.Proofs.Session.Account

/-! Ending a run at a stall: what the host sees is what plain steps would have shown. -/

namespace ChipEight

/-- What a run answers its host: the ticks that were done, or the step that failed. -/
def Run.answer (run : Run) : Except StepFault Nat :=
  match run.ending with
  | .failed why => .error why
  | _ => .ok run.ticks

/-- What plain steps amount to: nothing, or the step that failed. -/
def Outcome.stepFault? (outcome : Outcome Fault Console) : Option StepFault :=
  outcome.failure.map fun fault => { address := outcome.state.machine.pc, fault }

/-- A run answers with a failure when it ended with it. -/
theorem Run.answer_eq_error_iff {run : Run} {why : StepFault} :
    run.answer = .error why ↔ run.ending = .failed why := by
  unfold answer
  cases run.ending with
  | failed cause => simp
  | _ => simp

/-- Steps that did not fail have no step that did. -/
theorem Outcome.stepFault?_of_ok {outcome : Outcome Fault Console}
    (succeeded : outcome.failure = none) : outcome.stepFault? = none := by
  rw [stepFault?, succeeded]
  rfl

/-- No two failed steps are worded alike. -/
theorem StepFault.message_inj {why other : StepFault} :
    why.message = other.message ↔ why = other := by
  have message_eq (failed : StepFault) : failed.message = "Instruction at " ++
      (Hexadecimal.marked 3 failed.address.toNat ++ " " ++
        ("failed: " ++ failed.fault.report)) := by
    have blank : " failed: " = " " ++ "failed: " := by decide
    unfold message
    rw [blank]
    simp only [String.append_assoc]
  refine ⟨fun same => ?_, congrArg message⟩
  rw [message_eq, message_eq, String.append_right_inj] at same
  -- The address ends at the first blank behind it.
  obtain ⟨place, cause⟩ := Hexadecimal.eq_of_marked_append same
  rw [String.append_right_inj, Fault.report_inj] at cause
  cases why
  cases other
  exact congr (congrArg StepFault.mk (UInt16.toNat_inj.mp place)) cause

namespace Session

variable {session : Session} {times : Nat → Nat}

/--
A run comes to the same as all of its steps done plainly. Where it ended early at a stall, the steps
that it left out could only have moved the timers.
-/
theorem runFor_eq_plainSteps (recorded : session.console.machine.Recorded) (times : Nat → Nat)
    (ticks : Nat) :
    (∀ why, (session.runFor times ticks 0).answer = .error why ↔
      (session.console.plainSteps times (ticks * session.stepsPerTick) 0).stepFault? = some why) ∧
    (session.runFor times ticks 0).session.console.machine.timeless =
      (session.console.plainSteps times
        (ticks * session.stepsPerTick) 0).state.machine.timeless := by
  have account := (keeps_start session times).account ticks
  generalize session.runFor times ticks 0 = run at account ⊢
  -- The steps that the run left out, if any, come after those that it did.
  have rest : ∀ fewer ≤ ticks, ∃ more, ticks * session.stepsPerTick =
      fewer * session.stepsPerTick + more := fun fewer earlier =>
    Nat.exists_eq_add_of_le (Nat.mul_le_mul_right session.stepsPerTick earlier)
  cases account with
  | spent ending all succeeded console onward =>
    -- No step was left out.
    rw [Nat.zero_add] at all
    rw [all] at succeeded console
    refine ⟨fun why => ?_, by rw [console.machine]⟩
    rw [Run.answer_eq_error_iff, ending, Outcome.stepFault?_of_ok succeeded]
    simp
  | stalled why ending later allowed succeeded console seen onward =>
    -- A stalled machine goes on without failure, and only its timers change.
    obtain ⟨more, split⟩ := rest run.ticks (by omega)
    obtain ⟨lasting, timers, final⟩ := Console.plainSteps_of_stalled
      (Console.recorded_plainSteps recorded times _ 0) seen times more
      (0 + run.ticks * session.stepsPerTick)
    -- What was left out goes on from the stalled machine.
    rw [split, Console.plainSteps_add_of_ok more succeeded]
    refine ⟨fun cause => ?_, by rw [final, console.machine]; rfl⟩
    rw [Run.answer_eq_error_iff, ending, Outcome.stepFault?_of_ok lasting]
    simp
  | failed why ending allowed failed address console =>
    -- Nothing is done after a step that failed.
    obtain ⟨more, split⟩ := rest (run.ticks + 1) (by omega)
    rw [split, Console.plainSteps_add_of_error more failed]
    refine ⟨fun cause => ?_, by rw [console.machine]⟩
    rw [Run.answer_eq_error_iff, ending, Outcome.stepFault?, failed, Option.map_some, ← address]
    simp

/-- A run answers with a step that failed exactly when its steps done plainly do. -/
theorem run_answer_eq_error_iff (recorded : session.console.machine.Recorded)
    (times : Nat → Nat) {ticks : Nat} (limited : 0 < ticks) (patience : Nat) (why : StepFault) :
    (session.run times ticks patience).answer = .error why ↔
      (session.console.plainSteps times (session.stepsPerTick * ticks) 0).stepFault? =
        some why := by
  -- A limited run is allowed as many ticks as its limit says.
  rw [run_of_pos limited, Nat.mul_comm]
  exact (runFor_eq_plainSteps recorded times ticks).1 why

/-- A run succeeds exactly when its steps done plainly do. -/
theorem run_answer_eq_ok_iff (recorded : session.console.machine.Recorded)
    (times : Nat → Nat) {ticks : Nat} (limited : 0 < ticks) (patience : Nat) :
    (∃ ran, (session.run times ticks patience).answer = .ok ran) ↔
      (session.console.plainSteps times (session.stepsPerTick * ticks) 0).failure = none := by
  have failures := run_answer_eq_error_iff recorded times limited patience
  constructor
  · rintro ⟨ran, answered⟩
    -- A failure of the plain steps would have been the answer.
    cases failed : (session.console.plainSteps times
        (session.stepsPerTick * ticks) 0).failure with
    | none => rfl
    | some fault =>
      have refused := (failures _).mpr (congrArg (Option.map _) failed)
      rw [answered] at refused
      cases refused
  · intro succeeded
    -- A failure of the run would be one of the plain steps.
    cases answered : (session.run times ticks patience).answer with
    | ok ran => exact ⟨ran, rfl⟩
    | error why =>
      have refused := (failures why).mp answered
      rw [Outcome.stepFault?_of_ok succeeded] at refused
      cases refused

/-- A run leaves the machine as its steps done plainly do, timers apart. -/
theorem run_timeless (recorded : session.console.machine.Recorded)
    (times : Nat → Nat) {ticks : Nat} (limited : 0 < ticks) (patience : Nat) :
    (session.run times ticks patience).session.console.machine.timeless =
      (session.console.plainSteps times
        (session.stepsPerTick * ticks) 0).state.machine.timeless := by
  rw [run_of_pos limited, Nat.mul_comm]
  exact (runFor_eq_plainSteps recorded times ticks).2

/--
Nobody can tell that a run ended early at a stall. It succeeds when all of its steps done plainly
do, it leaves what they leave but for the timers, it tells the step that fails among them in words
that no other failure is told in, and so it is the same however the steps are dealt out to ticks.
-/
theorem early_stop_unobservable (session : Session) (fresh : session.console.machine.Fresh)
    (times : Nat → Nat) (ticks : Nat) (limited : 0 < ticks) (patience : Nat) :
    ((∃ ran, (session.run times ticks patience).answer = .ok ran) ↔
      (session.console.plainSteps times (session.stepsPerTick * ticks) 0).failure = none) ∧
    (session.run times ticks patience).session.console.machine.timeless =
      (session.console.plainSteps times
        (session.stepsPerTick * ticks) 0).state.machine.timeless ∧
    (∀ why, (session.run times ticks patience).answer = .error why →
      ∃ before < session.stepsPerTick * ticks, ∃ address fault,
        (session.console.plainSteps times before 0).failure = none ∧
        (session.console.plainSteps times before 0).state.machine.pc = address ∧
        (session.console.plainSteps times (before + 1) 0).failure = some fault ∧
        why.address = address ∧ why.fault = fault ∧
        why.message = "Instruction at " ++ Hexadecimal.marked 3 address.toNat ++
          " failed: " ++ fault.report ∧
        ∀ other : StepFault, other.message = why.message → other = why) ∧
    ∀ perTick otherTicks, 0 < otherTicks →
      perTick * otherTicks = session.stepsPerTick * ticks →
      ({ session with stepsPerTick := perTick }.run times otherTicks
          patience).session.console.machine.timeless =
        (session.run times ticks patience).session.console.machine.timeless ∧
      ∀ why, ({ session with stepsPerTick := perTick }.run times otherTicks patience).answer =
          .error why ↔ (session.run times ticks patience).answer = .error why := by
  have recorded := fresh.recorded
  have failures := run_answer_eq_error_iff recorded times limited patience
  refine ⟨run_answer_eq_ok_iff recorded times limited patience,
    run_timeless recorded times limited patience, ?_, ?_⟩
  · intro why answered
    -- The plain steps end with the one that failed, at its instruction.
    obtain ⟨fault, failed, rfl⟩ := Option.map_eq_some_iff.mp ((failures why).mp answered)
    obtain ⟨before, fewer, succeeded, last, place⟩ := Console.exists_failing_step failed
    refine ⟨before, fewer, _, fault, succeeded, rfl, (congrArg Outcome.failure last).trans failed,
      place, rfl, ?_, fun other => StepFault.message_inj.mp⟩
    -- The message tells the address of the failing instruction and what failed.
    exact congrArg (fun address => StepFault.message { address, fault }) place
  · intro perTick otherTicks otherLimited same
    -- Both runs come to the same plain steps.
    have other : { session with stepsPerTick := perTick }.console.machine.Recorded := recorded
    have otherState := run_timeless other times otherLimited patience
    have otherFailures := run_answer_eq_error_iff other times otherLimited patience
    rw [same] at otherState otherFailures
    refine ⟨otherState.trans (run_timeless recorded times limited patience).symm, fun why => ?_⟩
    -- The plain steps fail in one way, whatever ticks they are dealt out to.
    rw [otherFailures, failures]

/--
A program sets a register and then jumps to itself. It stalls in the middle of the first of two
ticks of three steps each, and the run ends after that tick with what six steps would have left.
-/
theorem early_stop_unobservable_mid_tick :
    let session : Session :=
      { console := .around (.booted 0 (.ofList [0x60, 0x05, 0x12, 0x02]) .released)
        stepsPerTick := 3 }
    session.console.machine.Fresh ∧ 0 < 2 ∧
      (session.console.plainSteps id 2 0).state.machine.stall? = some .selfJump ∧
      (session.run id 2 0).answer = .ok 1 ∧
      (session.console.plainSteps id 6 0).failure = none ∧
      (session.run id 2 0).session.console.machine.timeless =
        (session.console.plainSteps id 6 0).state.machine.timeless ∧
      ({ session with stepsPerTick := 2 }.run id 3 0).session.console.machine.timeless =
        (session.run id 2 0).session.console.machine.timeless := by
  intro session
  let program : Bytes := .ofList [0x60, 0x05, 0x12, 0x02]
  have fresh : session.console.machine.Fresh :=
    Machine.fresh_iff.mpr ⟨0, program, .released, by decide, rfl⟩
  have start : session.console.machine.pc = 0x200 := rfl
  have word : session.console.machine.nextWord = 0x6005 := Machine.nextWord_booted 0 program _
  have next : session.console.machine.memory.wordAt 0x202 = 0x1202 :=
    (Machine.wordAt_booted 0 program .released 2 (by decide)).trans (by decide)
  have pace : session.stepsPerTick = 3 := rfl
  -- No more has to be known of the session, whose memory is long to compare.
  clear_value session
  have running : session.console.machine.halted = false :=
    Machine.halted_eq_false_of_le (by rw [start]; decide)
  -- The first instruction sets a register and goes on to the next.
  have done : session.console.machine.attempt session.console.entropy.next =
      .ok { machine := session.console.machine.underway.setReg 0 5 } := by
    rw [Machine.attempt, word]
    rfl
  have onward : session.console.machine.pc + 2 = 0x202 := by
    rw [start]
    rfl
  have first : (session.console.step (id 0)).failure = none := by
    rw [(Console.step_machine _ _).1, Machine.step_of_ok running done]
  -- After the first step the program stands before the jump.
  have jump : (session.console.step (id 0)).state.machine.DeadEnd (some .selfJump) := by
    rw [(Console.step_machine _ _).2, Machine.step_of_ok running done]
    refine .selfJump ?_ ?_
    · refine Machine.halted_eq_false_of_le ?_
      show session.console.machine.pc + 2 ≤ 0x0FFE
      rw [onward]
      decide
    · show Instruction.decode (session.console.machine.memory.wordAt
        (session.console.machine.pc + 2).toNat) = .jump (session.console.machine.pc + 2)
      rw [onward, show (0x202 : UInt16).toNat = 0x202 from rfl, next]
      decide
  -- The rest of the tick is spent at the jump.
  have stalls : ∀ count, (session.console.plainSteps id (count + 2) 0).failure = none ∧
      (session.console.plainSteps id (count + 2) 0).state.machine.stall? = some .selfJump := by
    intro count
    obtain ⟨lasting, timers, final⟩ := Console.plainSteps_of_deadEnd jump id count 1
    have seen := (jump.resting timers).stall?_resting
    rw [Machine.resting_resting] at seen
    rw [Console.plainSteps_succ_of_ok _ first, final]
    exact ⟨lasting, seen⟩
  -- The first tick is completed, and at its end the stall is seen.
  have answered : (session.run id 2 0).answer = .ok 1 := by
    obtain ⟨failure, console, _⟩ := (keeps_start session id).tick
    rw [pace, Nat.zero_add, Nat.one_mul] at failure console
    have ended : (session.tick id 0).failure = none := by
      rw [failure, (stalls 1).1]
      rfl
    have seen : (session.tick id 0).state.stall? = some .selfJump := by
      rw [stall?, console.machine]
      exact (stalls 1).2
    rw [run_of_pos (by decide), runFor_of_stalled 1 ended seen]
    rfl
  obtain ⟨succeeds, same, _, dealt⟩ := early_stop_unobservable session fresh id 2 (by decide) 0
  rw [pace] at succeeds same dealt
  exact ⟨fresh, by decide, (stalls 0).2, answered, succeeds.mp ⟨1, answered⟩, same,
    (dealt 2 3 (by decide) rfl).1⟩

end Session

end ChipEight
