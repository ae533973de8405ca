import ChipEight.Console.Laws
import ChipEight.Proofs.Machine.Stall
import ChipEight.Session.Basic

/-! Steps one after the other, with no look at stalls: how they add up, fail and come to rest. -/

namespace ChipEight.Console

/--
Steps up to and including the first that fails, each of them done whatever the machine looks like.
They are numbered on from those done before them, and `times` gives the moment of each.
-/
def plainSteps (console : Console) (times : Nat → Nat) :
    (count done : Nat) → Outcome Fault Console
  | 0, _ => { state := console }
  | count + 1, done =>
    let outcome := console.step (times done)
    match outcome.failure with
    | some _ => outcome
    | none => outcome.state.plainSteps times count (done + 1)

variable {console other : Console} {times : Nat → Nat} {fault : Fault}

/-- A step of a console is one of its machine. -/
theorem step_machine (console : Console) (now : Nat) :
    (console.step now).failure = (console.machine.step console.entropy.next now).failure ∧
      (console.step now).state.machine =
        (console.machine.step console.entropy.next now).state :=
  ⟨rfl, rfl⟩

/-- A step that fails ends the steps. -/
theorem plainSteps_succ_of_error {done : Nat} (count : Nat)
    (failed : (console.step (times done)).failure = some fault) :
    console.plainSteps times (count + 1) done = console.step (times done) := by
  simp only [plainSteps, failed]

/-- A step that does not fail is followed by the others. -/
theorem plainSteps_succ_of_ok {done : Nat} (count : Nat)
    (succeeded : (console.step (times done)).failure = none) :
    console.plainSteps times (count + 1) done =
      (console.step (times done)).state.plainSteps times count (done + 1) := by
  simp only [plainSteps, succeeded]

/-- Steps that failed are not followed by more. -/
theorem plainSteps_add_of_error {first done : Nat} (second : Nat)
    (failed : (console.plainSteps times first done).failure = some fault) :
    console.plainSteps times (first + second) done = console.plainSteps times first done := by
  -- The failing step is found in front of the others or among them.
  induction first generalizing console done with
  -- No steps do not fail.
  | zero => cases failed
  | succ first ih =>
    rw [Nat.succ_add_eq_add_succ, Nat.add_succ]
    cases stepped : (console.step (times done)).failure with
    | some cause => rw [plainSteps_succ_of_error _ stepped, plainSteps_succ_of_error _ stepped]
    | none =>
      rw [plainSteps_succ_of_ok _ stepped] at failed ⊢
      rw [plainSteps_succ_of_ok _ stepped]
      exact ih failed

/-- Steps that did not fail are followed by those that come after them. -/
theorem plainSteps_add_of_ok {first done : Nat} (second : Nat)
    (succeeded : (console.plainSteps times first done).failure = none) :
    console.plainSteps times (first + second) done =
      (console.plainSteps times first done).state.plainSteps times second (done + first) := by
  -- The numbering and the console both move on with each step, so they stay quantified over.
  induction first generalizing console done with
  | zero =>
    rw [Nat.zero_add]
    rfl
  | succ first ih =>
    rw [Nat.succ_add_eq_add_succ, Nat.add_succ]
    cases stepped : (console.step (times done)).failure with
    | some cause =>
      -- No step of the first part fails.
      rw [plainSteps_succ_of_error _ stepped, stepped] at succeeded
      cases succeeded
    | none =>
      -- The first step is shared, and the numbers that follow add up.
      rw [plainSteps_succ_of_ok _ stepped] at succeeded ⊢
      rw [plainSteps_succ_of_ok _ stepped, ih succeeded, Nat.add_right_comm]
      rfl

/-- Fewer steps than some that did not fail do not fail. -/
theorem plainSteps_ok_of_le {count more done : Nat} (fewer : count ≤ more)
    (succeeded : (console.plainSteps times more done).failure = none) :
    (console.plainSteps times count done).failure = none := by
  obtain ⟨rest, rfl⟩ := Nat.exists_eq_add_of_le fewer
  cases failed : (console.plainSteps times count done).failure with
  | none => rfl
  | some fault =>
    -- A failure among them would be the failure of them all.
    rw [plainSteps_add_of_error rest failed, failed] at succeeded
    cases succeeded

/-- One more step after some that did not fail. -/
theorem plainSteps_succ_last {count : Nat}
    (succeeded : (console.plainSteps times count 0).failure = none) :
    console.plainSteps times (count + 1) 0 =
      (console.plainSteps times count 0).state.step (times count) := by
  rw [plainSteps_add_of_ok 1 succeeded, Nat.zero_add]
  -- A single step is a sequence of steps whether or not it fails.
  cases stepped : ((console.plainSteps times count 0).state.step (times count)).failure with
  | some cause => rw [plainSteps_succ_of_error _ stepped]
  | none =>
    rw [plainSteps_succ_of_ok _ stepped, plainSteps, ← stepped]

/-- Steps at the same moments are the same, wherever they are numbered from. -/
theorem plainSteps_congr {times later : Nat → Nat} {done start : Nat} (console : Console)
    (count : Nat) (same : ∀ number, times (done + number) = later (start + number)) :
    console.plainSteps times count done = console.plainSteps later count start := by
  induction count generalizing console done start with
  | zero => rfl
  | succ count ih =>
    have moment : times done = later start := same 0
    -- The moments of the steps after this one are the same as well.
    have onward : ∀ number, times (done + 1 + number) = later (start + 1 + number) := by
      intro number
      rw [Nat.add_assoc, Nat.add_assoc]
      exact same (1 + number)
    cases stepped : (console.step (later start)).failure with
    | some fault =>
      rw [plainSteps_succ_of_error _ stepped, plainSteps_succ_of_error _ (moment ▸ stepped), moment]
    | none =>
      rw [plainSteps_succ_of_ok _ stepped, plainSteps_succ_of_ok _ (moment ▸ stepped), moment]
      exact ih _ onward

/-- A step of a halted console prepares nothing and leaves it as it is. -/
theorem step_of_halted (halted : console.machine.halted = true) (now : Nat) :
    console.step now = { state := console } := by
  simp only [step, running, prepared, Machine.upcoming?, Machine.step_of_halted halted, halted,
    if_true, Outcome.map, withMachine_machine]

/-- A halted console does nothing, however many steps it is given. -/
theorem plainSteps_of_halted {done : Nat} (halted : console.machine.halted = true) (count : Nat) :
    console.plainSteps times count done = { state := console } := by
  induction count generalizing done with
  | zero => rfl
  | succ count ih =>
    -- Each step leaves the very console that the next one starts from.
    have stepped := step_of_halted halted (times done)
    rw [plainSteps_succ_of_ok count (by rw [stepped]), stepped]
    exact ih

/-- The steps of a tick, which end at a halted machine, are plain steps, told where one failed. -/
theorem steps_eq_plainSteps (console : Console) (times : Nat → Nat) (count done : Nat) :
    console.steps times count done =
      { state := (console.plainSteps times count done).state
        failure := (console.plainSteps times count done).failure.map fun fault =>
          { address := (console.plainSteps times count done).state.machine.pc, fault } } := by
  induction count generalizing console done with
  | zero => rfl
  | succ count ih =>
    cases halted : console.machine.halted with
    | true =>
      -- The steps of a tick end here, and the plain ones do nothing from here on.
      rw [plainSteps_of_halted halted, steps, if_pos halted]
      rfl
    | false =>
      -- Both do the same step and look at its failure.
      simp only [steps, halted, Bool.false_eq_true, if_false]
      cases stepped : (console.step (times done)).failure with
      | some fault =>
        rw [plainSteps_succ_of_error _ stepped, stepped]
        rfl
      | none =>
        rw [plainSteps_succ_of_ok _ stepped]
        exact ih _ _

/-- Two consoles that differ at most in their journals and handles. -/
structure Alike (console other : Console) : Prop where
  machine : console.machine = other.machine
  entropy : console.entropy = other.entropy

/-- An event makes no difference to the work of a console. -/
theorem alike_note (console : Console) (event : Event) : (console.note event).Alike console :=
  ⟨rfl, rfl⟩

/-- The random bytes are used up in the same way by consoles that are alike. -/
theorem Alike.prepared (alike : console.Alike other) :
    console.prepared.entropy = other.prepared.entropy := by
  unfold Console.prepared
  -- Whether a byte is used up depends on the machine alone.
  rw [alike.machine]
  split
  · exact alike.entropy
  · rw [alike.entropy]

/-- Consoles that are alike step alike. -/
theorem Alike.step (alike : console.Alike other) (now : Nat) :
    (console.step now).failure = (other.step now).failure ∧
      (console.step now).state.Alike (other.step now).state := by
  have machine := alike.machine
  have entropy := alike.entropy
  refine ⟨?_, ?_, alike.prepared⟩
  · rw [(step_machine console now).1, (step_machine other now).1, machine, entropy]
  · rw [(step_machine console now).2, (step_machine other now).2, machine, entropy]

/-- Consoles that are alike go through the same steps. -/
theorem Alike.plainSteps (alike : console.Alike other) (times : Nat → Nat) (count done : Nat) :
    (console.plainSteps times count done).failure = (other.plainSteps times count done).failure ∧
      (console.plainSteps times count done).state.Alike
        (other.plainSteps times count done).state := by
  induction count generalizing console other done with
  | zero => exact ⟨rfl, alike⟩
  | succ count ih =>
    obtain ⟨failure, after⟩ := alike.step (times done)
    cases stepped : (other.step (times done)).failure with
    | some fault =>
      -- Both fail at this step.
      rw [plainSteps_succ_of_error _ stepped,
        plainSteps_succ_of_error _ (failure.trans stepped)]
      exact ⟨failure, after⟩
    | none =>
      -- Both go on, still alike.
      rw [plainSteps_succ_of_ok _ stepped, plainSteps_succ_of_ok _ (failure.trans stepped)]
      exact ih after _

/-- Steps leave a record to trust behind, whether or not they fail. -/
theorem recorded_plainSteps (recorded : console.machine.Recorded) (times : Nat → Nat)
    (count done : Nat) : (console.plainSteps times count done).state.machine.Recorded := by
  -- The invariant is handed on from each step to the next, also to a last one that fails.
  induction count generalizing console done with
  | zero => exact recorded
  | succ count ih =>
    -- One step keeps the record, whatever comes of it.
    have after : (console.step (times done)).state.machine.Recorded := by
      rw [(step_machine console _).2]
      exact recorded.step _ _
    cases stepped : (console.step (times done)).failure with
    | some fault =>
      rw [plainSteps_succ_of_error _ stepped]
      exact after
    | none =>
      rw [plainSteps_succ_of_ok _ stepped]
      exact ih after _

/-- A step of a dead end leads nowhere. -/
theorem step_of_deadEnd {seen : Option Stall} (deadEnd : console.machine.DeadEnd seen)
    (now : Nat) : (console.step now).failure = none ∧
      ∃ timers, (console.step now).state.machine = { console.machine.resting with timers } := by
  obtain ⟨timers, stepped⟩ := deadEnd.step_eq console.entropy.next now
  rw [(step_machine console now).1, (step_machine console now).2, stepped]
  exact ⟨rfl, timers, rfl⟩

/-- A program stays at a dead end: no step fails, and only the timers go on. -/
theorem plainSteps_of_deadEnd {seen : Option Stall} (deadEnd : console.machine.DeadEnd seen)
    (times : Nat → Nat) (count done : Nat) :
    (console.plainSteps times (count + 1) done).failure = none ∧
      ∃ timers, (console.plainSteps times (count + 1) done).state.machine =
        { console.machine.resting with timers } := by
  -- The first step puts the word on record, and from then on the machine is at rest.
  induction count generalizing console done with
  | zero =>
    obtain ⟨succeeded, timers, after⟩ := step_of_deadEnd deadEnd (times done)
    rw [plainSteps_succ_of_ok _ succeeded]
    exact ⟨rfl, timers, after⟩
  | succ count ih =>
    obtain ⟨succeeded, timers, after⟩ := step_of_deadEnd deadEnd (times done)
    -- The dead end is still one after the step.
    have still : (console.step (times done)).state.machine.DeadEnd seen := by
      rw [after]
      exact deadEnd.resting timers
    obtain ⟨succeeded_later, later, final⟩ := ih still (done + 1)
    rw [plainSteps_succ_of_ok _ succeeded]
    refine ⟨succeeded_later, later, ?_⟩
    rw [final, after, Machine.resting_resting]

/-- A machine that is seen to stall stalls for good, whatever number of steps it is given. -/
theorem plainSteps_of_stalled (recorded : console.machine.Recorded) {why : Stall}
    (stalled : console.machine.stall? = some why) (times : Nat → Nat) (count done : Nat) :
    (console.plainSteps times count done).failure = none ∧
      ∃ timers, (console.plainSteps times count done).state.machine =
        { console.machine with timers } := by
  -- Its word is on record already, so not even the first step changes more than the timers.
  obtain ⟨deadEnd, rest⟩ := Machine.deadEnd_of_stalled recorded stalled
  cases count with
  | zero => exact ⟨rfl, console.machine.timers, rfl⟩
  | succ count =>
    obtain ⟨succeeded, timers, final⟩ := plainSteps_of_deadEnd deadEnd times count done
    rw [rest] at final
    exact ⟨succeeded, timers, final⟩

/-- A stall that is seen after some steps is seen after all that follow, none of which fails. -/
theorem stall_lasts (recorded : console.machine.Recorded) {count more : Nat} {why : Stall}
    (succeeded : (console.plainSteps times count 0).failure = none)
    (stalled : (console.plainSteps times count 0).state.machine.stall? = some why)
    (later : count ≤ more) :
    (console.plainSteps times more 0).failure = none ∧
      (console.plainSteps times more 0).state.machine.stall? = some why := by
  obtain ⟨rest, rfl⟩ := Nat.exists_eq_add_of_le later
  obtain ⟨lasting, timers, final⟩ := plainSteps_of_stalled
    (recorded_plainSteps recorded times count 0) stalled times rest (0 + count)
  rw [plainSteps_add_of_ok rest succeeded]
  -- The watch does not look at the timers.
  refine ⟨lasting, ?_⟩
  rw [final]
  exact stalled

/-- A step that fails puts its word on record, and that is all it does to the machine. -/
theorem machine_of_step_error {now : Nat} {fault : Fault}
    (failed : (console.step now).failure = some fault) :
    (console.step now).state.machine = console.machine.noted := by
  rw [(step_machine console now).1] at failed
  rw [(step_machine console now).2]
  -- Of the three outcomes of a step only one is a failure.
  have outcome := console.machine.stepped console.entropy.next now
  generalize console.machine.step console.entropy.next now = result at outcome failed ⊢
  cases outcome with
  | failed => rfl
  | halted => cases failed
  | done => cases failed

/-- A step that fails leaves the program at the instruction that failed. -/
theorem pc_of_step_error {now : Nat} (failed : (console.step now).failure = some fault) :
    (console.step now).state.machine.pc = console.machine.pc := by
  rw [machine_of_step_error failed]
  rfl

/-- Steps that failed have a last one, which did, at the instruction where they end. -/
theorem exists_failing_step {count : Nat}
    (failed : (console.plainSteps times count 0).failure = some fault) :
    ∃ before < count, (console.plainSteps times before 0).failure = none ∧
      console.plainSteps times (before + 1) 0 = console.plainSteps times count 0 ∧
      (console.plainSteps times count 0).state.machine.pc =
        (console.plainSteps times before 0).state.machine.pc := by
  induction count with
  | zero => cases failed
  | succ count ih =>
    cases earlier : (console.plainSteps times count 0).failure with
    | some cause =>
      -- The last step was never done.
      have same := plainSteps_add_of_error 1 earlier
      rw [same] at failed ⊢
      obtain ⟨before, fewer, succeeded, last, place⟩ := ih failed
      exact ⟨before, Nat.lt_succ_of_lt fewer, succeeded, last, place⟩
    | none =>
      -- The last step is the one that failed.
      refine ⟨count, Nat.lt_succ_self count, earlier, rfl, ?_⟩
      rw [plainSteps_succ_last earlier] at failed ⊢
      exact pc_of_step_error failed

/-- Steps that failed are some that did not and then one that did. -/
theorem exists_last_step {times : Nat → Nat} {count done : Nat} {fault : Fault}
    (failed : (console.plainSteps times count done).failure = some fault) :
    ∃ before < count, ∃ reached : Console,
      console.plainSteps times before done = { state := reached } ∧
        console.plainSteps times count done = reached.step (times (done + before)) := by
  -- The steps are numbered from zero for once.
  have renumbered : ∀ count, console.plainSteps times count done =
      console.plainSteps (fun number => times (done + number)) count 0 := fun count =>
    console.plainSteps_congr count fun number => by rw [Nat.zero_add]
  rw [renumbered] at failed
  obtain ⟨before, fewer, succeeded, last, _⟩ := exists_failing_step failed
  refine ⟨before, fewer, (console.plainSteps times before done).state, ?_, ?_⟩
  · rw [renumbered, ← succeeded]
  · rw [renumbered, renumbered, ← last, plainSteps_succ_last succeeded]

end ChipEight.Console
