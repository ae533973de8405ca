import ChipEight.Proofs.Console.Steps
import ChipEight.Session.Run

/-! Runs told by plain steps: how each ends, after how many ticks, and with which console. -/

namespace ChipEight

namespace Session

variable {session : Session} {times : Nat → Nat}

/-- A look at the tone makes no difference to the work of a console. -/
theorem watchSound_alike (session : Session) :
    session.watchSound.console.Alike session.console ∧
      session.watchSound.stepsPerTick = session.stepsPerTick := by
  unfold watchSound
  dsimp only
  split
  · exact ⟨⟨rfl, rfl⟩, rfl⟩
  · -- A change of the tone is written to the journal.
    exact ⟨Console.alike_note _ _, rfl⟩

/-- After the steps of a tick the session has their console and their failure. -/
theorem afterSteps_alike (session : Session) (outcome : Outcome StepFault Console) :
    (session.afterSteps outcome).failure = outcome.failure ∧
      (session.afterSteps outcome).state.console.Alike outcome.state ∧
      (session.afterSteps outcome).state.stepsPerTick = session.stepsPerTick := by
  unfold afterSteps
  cases failed : outcome.failure with
  -- Nobody looks at the tone after a failure.
  | some fault => exact ⟨rfl, ⟨rfl, rfl⟩, rfl⟩
  | none => exact ⟨rfl, watchSound_alike { session with console := outcome.state }⟩

/-- The console of a session is as plain steps from another one left it at the end of a tick. -/
structure Keeps (session : Session) (times : Nat → Nat) (start : Console)
    (perTick ticks : Nat) : Prop where
  succeeded : (start.plainSteps times (ticks * perTick) 0).failure = none
  console : session.console.Alike (start.plainSteps times (ticks * perTick) 0).state
  pace : session.stepsPerTick = perTick

/-- A tick does the plain steps that are next, and tells where one of them failed. -/
theorem Keeps.tick {start : Console} {perTick ticks : Nat}
    (keeps : session.Keeps times start perTick ticks) :
    (session.tick times ticks).failure =
        (start.plainSteps times ((ticks + 1) * perTick) 0).failure.map (fun fault =>
          { address := (start.plainSteps times ((ticks + 1) * perTick) 0).state.machine.pc
            fault }) ∧
      (session.tick times ticks).state.console.Alike
        (start.plainSteps times ((ticks + 1) * perTick) 0).state ∧
      (session.tick times ticks).state.stepsPerTick = perTick := by
  obtain ⟨succeeded, console, pace⟩ := keeps
  -- The plain steps go on from where they were, and the console of the session along with them.
  have next := Console.plainSteps_add_of_ok perTick succeeded
  rw [← Nat.succ_mul, Nat.zero_add] at next
  obtain ⟨failure, state⟩ := console.plainSteps times perTick (ticks * perTick)
  rw [← next] at failure state
  -- What follows the steps of the tick leaves their console and their failure.
  obtain ⟨tickFailure, tickState, tickPace⟩ := session.afterSteps_alike
    (session.console.steps times session.stepsPerTick (ticks * session.stepsPerTick))
  rw [pace, Console.steps_eq_plainSteps] at tickFailure tickState
  -- The pace of the session is that of the account, and its steps are plain steps.
  refine ⟨?_, ?_, tickPace.trans pace⟩
  · rw [Session.tick, pace, Console.steps_eq_plainSteps, tickFailure, failure, state.machine]
  · rw [Session.tick, pace, Console.steps_eq_plainSteps]
    exact ⟨tickState.machine.trans state.machine, tickState.entropy.trans state.entropy⟩

/-- A run ends at a tick that fails. -/
theorem runFor_of_error {ticks : Nat} {why : StepFault} (allowance : Nat)
    (failed : (session.tick times ticks).failure = some why) :
    session.runFor times (allowance + 1) ticks =
      { session := (session.tick times ticks).state, ticks, ending := .failed why } := by
  simp only [runFor, failed]

/-- A run ends after a tick when the program is seen to stall. -/
theorem runFor_of_stalled {ticks : Nat} {why : Stall} (allowance : Nat)
    (succeeded : (session.tick times ticks).failure = none)
    (stalled : (session.tick times ticks).state.stall? = some why) :
    session.runFor times (allowance + 1) ticks =
      { session := (session.tick times ticks).state.note (.stopping (ticks + 1) why)
        ticks := ticks + 1
        ending := .stalled why } := by
  simp only [runFor, succeeded, closeTick, stalled]

/-- A run goes on after a tick when the program is not seen to stall. -/
theorem runFor_of_onward {ticks : Nat} (allowance : Nat)
    (succeeded : (session.tick times ticks).failure = none)
    (onward : (session.tick times ticks).state.stall? = none) :
    session.runFor times (allowance + 1) ticks =
      (session.tick times ticks).state.runFor times allowance (ticks + 1) := by
  simp only [runFor, succeeded, closeTick, onward]

end Session

/--
What a run amounts to, told by the plain steps of the console that it started with. It began after
so many ticks, with an allowance of so many more, and looks for stalls at the end of each.
-/
inductive Account (start : Console) (times : Nat → Nat) (perTick first allowance : Nat)
    (run : Run) : Prop where
  /-- The allowance was spent, and the program was never seen to stall. -/
  | spent (ending : run.ending = .allowanceSpent) (ticks : run.ticks = first + allowance)
      (succeeded : (start.plainSteps times (run.ticks * perTick) 0).failure = none)
      (console : run.session.console.Alike (start.plainSteps times (run.ticks * perTick) 0).state)
      (onward : ∀ tick, first < tick → tick ≤ run.ticks →
        (start.plainSteps times (tick * perTick) 0).state.machine.stall? = none)
  /-- The program was seen to stall after the last tick, and not before. -/
  | stalled (why : Stall) (ending : run.ending = .stalled why) (later : first < run.ticks)
      (allowed : run.ticks ≤ first + allowance)
      (succeeded : (start.plainSteps times (run.ticks * perTick) 0).failure = none)
      (console : run.session.console.Alike (start.plainSteps times (run.ticks * perTick) 0).state)
      (seen : (start.plainSteps times (run.ticks * perTick) 0).state.machine.stall? = some why)
      (onward : ∀ tick, first < tick → tick < run.ticks →
        (start.plainSteps times (tick * perTick) 0).state.machine.stall? = none)
  /-- A step of the tick after the last failed. -/
  | failed (why : StepFault) (ending : run.ending = .failed why)
      (allowed : run.ticks < first + allowance)
      (failed : (start.plainSteps times ((run.ticks + 1) * perTick) 0).failure = some why.fault)
      (address : why.address =
        (start.plainSteps times ((run.ticks + 1) * perTick) 0).state.machine.pc)
      (console : run.session.console.Alike
        (start.plainSteps times ((run.ticks + 1) * perTick) 0).state)

/-- Every run has an account. -/
theorem Session.Keeps.account {session : Session} {times : Nat → Nat} {start : Console}
    {perTick first : Nat} (keeps : session.Keeps times start perTick first) (allowance : Nat) :
    Account start times perTick first allowance (session.runFor times allowance first) := by
  -- Each tick leads from one session that keeps to the plain steps to the next.
  induction allowance generalizing session first with
  | zero =>
    -- There are no ticks to look at.
    exact .spent rfl rfl keeps.succeeded keeps.console
      (fun tick later earlier => absurd later (Nat.not_lt_of_le earlier))
  | succ allowance ih =>
    -- This tick has failed, or seen a stall, or neither.
    obtain ⟨failure, console, pace⟩ := keeps.tick
    have machine := console.machine
    cases ticked : (session.tick times first).failure with
    | some why =>
      -- The run ends in the middle of this tick.
      rw [Session.runFor_of_error allowance ticked]
      rw [ticked] at failure
      obtain ⟨fault, failed, rfl⟩ := Option.map_eq_some_iff.mp failure.symm
      exact .failed _ rfl (by simp) failed rfl console
    | none =>
      rw [ticked] at failure
      have succeeded := Option.map_eq_none_iff.mp failure.symm
      cases stalled : (session.tick times first).state.stall? with
      | some why =>
        -- The run ends after this tick, the first that is looked at.
        rw [Session.runFor_of_stalled allowance ticked stalled]
        rw [Session.stall?, machine] at stalled
        refine .stalled why rfl (Nat.lt_succ_self first) (by simp) succeeded ?_ stalled ?_
        · exact ⟨console.machine, console.entropy⟩
        · intro tick later earlier
          exact absurd later (Nat.not_lt_of_le (Nat.le_of_lt_succ earlier))
      | none =>
        -- The run is the rest of the run, which started one tick later.
        rw [Session.runFor_of_onward allowance ticked stalled]
        rw [Session.stall?, machine] at stalled
        have at_first : ∀ tick, first < tick → tick ≤ first + 1 →
            (start.plainSteps times (tick * perTick) 0).state.machine.stall? = none := by
          intro tick later earlier
          rw [Nat.le_antisymm earlier later]
          exact stalled
        have total : first + 1 + allowance = first + (allowance + 1) := by omega
        -- Only what is said of the first boundary has to be added.
        cases ih ⟨succeeded, console, pace⟩ with
        | spent ending ticks succeeded console onward =>
          refine .spent ending (ticks.trans total) succeeded console fun tick later earlier => ?_
          rcases Nat.lt_or_ge (first + 1) tick with further | here
          · exact onward tick further earlier
          · exact at_first tick later here
        | stalled why ending later allowed succeeded console seen onward =>
          refine .stalled why ending (by omega) (by omega) succeeded console seen
            fun tick later earlier => ?_
          rcases Nat.lt_or_ge (first + 1) tick with further | here
          · exact onward tick further earlier
          · exact at_first tick later here
        | failed why ending allowed failed address console =>
          exact .failed why ending (by omega) failed address console

namespace Session

variable {session : Session} {times : Nat → Nat}

/-- A run with a limit is allowed that many ticks. -/
theorem run_of_pos {ticks : Nat} (limited : 0 < ticks) (patience : Nat) :
    session.run times ticks patience = session.runFor times ticks 0 := by
  rw [run, if_neg (Nat.ne_of_gt limited)]

/-- A run without a limit is allowed what its host has patience for. -/
theorem run_unlimited (session : Session) (times : Nat → Nat) (patience : Nat) :
    session.run times 0 patience = session.runFor times patience 0 := by
  rw [run, if_pos rfl]

/-- A session that has just begun keeps to its own console. -/
theorem keeps_start (session : Session) (times : Nat → Nat) :
    session.Keeps times session.console session.stepsPerTick 0 := by
  refine ⟨?_, ?_, rfl⟩
  · rw [Nat.zero_mul]
    rfl
  · rw [Nat.zero_mul]
    exact ⟨rfl, rfl⟩

/-- A run whose program neither fails nor is seen to stall spends its allowance. -/
theorem runFor_of_unseen
    (never_fails : ∀ count, (session.console.plainSteps times count 0).failure = none)
    (never_seen : ∀ count, (session.console.plainSteps times count 0).state.machine.stall? = none)
    (allowance : Nat) :
    (session.runFor times allowance 0).ending = .allowanceSpent ∧
      (session.runFor times allowance 0).ticks = allowance := by
  have account := (keeps_start session times).account allowance
  generalize session.runFor times allowance 0 = run at account ⊢
  cases account with
  | spent ending ticks succeeded console onward => exact ⟨ending, by omega⟩
  -- The other two ways to end are excluded.
  | stalled why ending later allowed succeeded console seen onward =>
    rw [never_seen] at seen
    cases seen
  | failed why ending allowed failed address console =>
    rw [never_fails] at failed
    cases failed

end Session

end ChipEight
