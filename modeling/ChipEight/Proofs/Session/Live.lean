import ChipEight.Program
import ChipEight.Proofs.Session.Account

/-!
A run on a host whose clock follows a script is the run at the moments of the script, and a call of
the program on such a system is told by what is known before.
-/

namespace ChipEight

namespace Console

variable {console : Console} {times : Nat → Nat} {done : Nat}

/-- The steps of a tick end with the first one if it fails. -/
theorem steps_succ_of_error (count : Nat) {why : StepFault}
    (failed : (console.steps (fun _ => times done) 1 0).failure = some why) :
    console.steps times (count + 1) done = console.steps (fun _ => times done) 1 0 := by
  cases halted : console.machine.halted with
  | true =>
    -- A machine that has halted does not fail.
    rw [steps, if_pos halted] at failed
    cases failed
  | false =>
    simp only [steps, halted, Bool.false_eq_true, if_false] at failed ⊢
    -- What failed is the step, so no other was done.
    cases stepped : (console.step (times done)).failure with
    | some fault => rfl
    | none =>
      rw [stepped] at failed
      cases failed

/-- The steps of a tick are the first one and then the others if it does not fail. -/
theorem steps_succ_of_ok (count : Nat)
    (succeeded : (console.steps (fun _ => times done) 1 0).failure = none) :
    console.steps times (count + 1) done =
      (console.steps (fun _ => times done) 1 0).state.steps times count (done + 1) := by
  cases halted : console.machine.halted with
  | true =>
    -- A machine that has halted is left as it is by one step and by all of them.
    have skipped : ∀ times count done, console.steps times count done = { state := console } := by
      intro times count done
      rw [steps_eq_plainSteps, plainSteps_of_halted halted]
      rfl
    simp only [skipped]
  | false =>
    simp only [steps, halted, Bool.false_eq_true, if_false] at succeeded ⊢
    cases stepped : (console.step (times done)).failure with
    | some fault =>
      rw [stepped] at succeeded
      cases succeeded
    | none => rfl

end Console

namespace Host

variable (times : Nat → Nat)

@[simp] theorem scripted_tickBegins : (scripted times).tickBegins = pure 0 := rfl

@[simp] theorem scripted_provide (session : Session) :
    (scripted times).provide session = pure session := rfl

@[simp] theorem scripted_moment :
    (scripted times).moment = modifyGet fun done => (times done, done + 1) := rfl

@[simp] theorem scripted_attend (session : Session) :
    (scripted times).attend session = pure session := rfl

@[simp] theorem scripted_rest (began : Nat) : (scripted times).rest began = pure () := rfl

end Host

namespace Session

variable {session : Session} {times : Nat → Nat}

/-- On a host a tick begins with one step, and goes on with the others if that does not fail. -/
theorem run_stepsOn_succ (session : Session) (times : Nat → Nat) (count done : Nat) :
    (session.stepsOn (.scripted times) (count + 1)).run done =
      let outcome := session.console.steps (fun _ => times done) 1 0
      let after := { session with console := outcome.state }
      match outcome.failure with
      | some why => ({ state := after, failure := some why }, done + 1)
      | none => (after.stepsOn (.scripted times) count).run (done + 1) := by
  -- The host has nothing to provide, and its clock shows what is next in the script.
  simp only [stepsOn, Host.scripted_provide, Host.scripted_moment, StateT.run_bind,
    StateT.run_modifyGet, pure_bind]
  cases (session.console.steps (fun _ => times done) 1 0).failure <;> rfl

/-- The steps of a tick on a host, which looks at its script once for each of them. -/
theorem run_stepsOn (session : Session) (times : Nat → Nat) (count done : Nat) :
    ∃ later, (session.stepsOn (.scripted times) count).run done =
        pure (session.afterSteps (session.console.steps times count done), later) ∧
      ((session.console.steps times count done).failure = none → later = done + count) := by
  -- The script has gone on by one moment with each step.
  induction count generalizing session done with
  -- With no steps left there is the look at the tone.
  | zero => exact ⟨done, rfl, fun _ => rfl⟩
  | succ count ih =>
    have begun := session.run_stepsOn_succ times count done
    cases first : (session.console.steps (fun _ => times done) 1 0).failure with
    | some why =>
      simp only [first] at begun
      -- The host has looked at its script for the step that failed.
      rw [begun, Console.steps_succ_of_error count first, afterSteps, first]
      exact ⟨done + 1, rfl, nofun⟩
    | none =>
      simp only [first] at begun
      rw [begun, Console.steps_succ_of_ok count first]
      obtain ⟨later, ran, counted⟩ := ih { session with
        console := (session.console.steps (fun _ => times done) 1 0).state } (done + 1)
      exact ⟨later, ran, fun ended => (counted ended).trans (Nat.succ_add_eq_add_succ done count)⟩

/-- A run on a host comes to the same as one at the moments of the host's script. -/
theorem runOn_scripted (session : Session) (times : Nat → Nat) (allowance ticksBefore : Nat) :
    ((session.runOn (.scripted times) allowance ticksBefore).run
        (ticksBefore * session.stepsPerTick)).1 =
      session.runFor times allowance ticksBefore := by
  induction allowance generalizing session ticksBefore with
  | zero => rfl
  | succ allowance ih =>
    -- The steps of the tick are those of its script.
    obtain ⟨later, ran, counted⟩ := session.run_stepsOn times session.stepsPerTick
      (ticksBefore * session.stepsPerTick)
    have ticked : session.afterSteps (session.console.steps times session.stepsPerTick
        (ticksBefore * session.stepsPerTick)) = session.tick times ticksBefore := rfl
    obtain ⟨failure, _, pace⟩ := session.afterSteps_alike
      (session.console.steps times session.stepsPerTick (ticksBefore * session.stepsPerTick))
    -- The steps of this tick are at the moments that come after those of earlier ticks.
    rw [ticked] at ran failure pace
    -- After its steps a tick is looked at for a stall, on a host as anywhere.
    simp only [runOn, Host.scripted_tickBegins, Host.scripted_attend, Host.scripted_rest,
      StateT.run_bind, pure_bind, ran]
    cases failed : (session.tick times ticksBefore).failure with
    | some why =>
      rw [runFor_of_error allowance failed]
      rfl
    | none =>
      cases stalled : (session.tick times ticksBefore).state.stall? with
      | some why =>
        rw [runFor_of_stalled allowance failed stalled]
        simp only [closeTick, stalled]
        rfl
      | none =>
        rw [runFor_of_onward allowance failed stalled, ← ih, pace, Nat.succ_mul,
          ← counted (failure.symm.trans failed)]
        simp only [closeTick, stalled]

end Session

/-- A call of the program on a system that is known before gives the report that is told by it. -/
theorem Program.callOn_scripted (arguments : List String) (storage : Storage) (entropy : Entropy)
    (times : Nat → Nat) (patience : Nat) :
    ((Program.callOn (.scripted storage entropy times patience) arguments).run 0).1 =
      Program.call arguments storage entropy times patience := by
  -- The same command line is read, and then the same file.
  unfold Program.callOn Program.call
  cases Options.parse arguments with
  | error problem => rfl
  | ok options =>
    simp only [System.scripted, pure_bind]
    cases Session.start options (storage.read options.rom)
        { entropy, journal := { level := options.logLevel } } with
    | error fault => rfl
    | ok session =>
      -- The run begins with the first moment of the script.
      have ran := session.runOn_scripted times
        (if options.ticks = 0 then patience else options.ticks) 0
      rw [Nat.zero_mul] at ran
      simp only [Host.scripted_attend, pure_bind, StateT.run_bind]
      exact congrArg Report.ofRun ran

end ChipEight
