import ChipEight.Proofs.Session.EarlyStop

/-! A run ends with the tick in which its program first stalls, and goes on if it never does. -/

namespace ChipEight

namespace Console

/-- The least number of plain steps after which a program is seen to stall. -/
structure FirstStall (console : Console) (times : Nat → Nat) (count : Nat) : Prop where
  succeeded : (console.plainSteps times count 0).failure = none
  stalled : (console.plainSteps times count 0).state.machine.stall?.isSome = true
  before : ∀ fewer < count, (console.plainSteps times fewer 0).state.machine.stall? = none

variable {console : Console} {times : Nat → Nat} {count : Nat}

/-- After the first stall no step fails, and the stall is seen after each. -/
theorem FirstStall.lasts (first : console.FirstStall times count)
    (recorded : console.machine.Recorded) {more : Nat} (later : count ≤ more) :
    (console.plainSteps times more 0).failure = none ∧
      (console.plainSteps times more 0).state.machine.stall?.isSome = true := by
  obtain ⟨why, stalled⟩ := Option.isSome_iff_exists.mp first.stalled
  -- A stall that was seen stays, because nothing but the timers changes after it.
  obtain ⟨succeeded, still⟩ := stall_lasts recorded first.succeeded stalled later
  exact ⟨succeeded, Option.isSome_iff_exists.mpr ⟨why, still⟩⟩

/-- A program that stalls at some time never fails. -/
theorem FirstStall.never_fails (first : console.FirstStall times count)
    (recorded : console.machine.Recorded) (other : Nat) :
    (console.plainSteps times other 0).failure = none := by
  rcases Nat.le_total count other with later | earlier
  · exact (first.lasts recorded later).1
  · exact plainSteps_ok_of_le earlier first.succeeded

/-- The stall is seen after so many steps exactly when they are as many as the first stall took. -/
theorem FirstStall.stalled_iff (first : console.FirstStall times count)
    (recorded : console.machine.Recorded) {other : Nat} :
    (console.plainSteps times other 0).state.machine.stall?.isSome = true ↔ count ≤ other := by
  constructor
  · intro stalled
    rcases Nat.lt_or_ge other count with earlier | later
    · -- There is no stall before the first.
      rw [first.before other earlier] at stalled
      cases stalled
    · exact later
  · exact fun later => (first.lasts recorded later).2

/-- A program without a first stall is never seen to stall, if no step fails. -/
theorem never_stalls (never_fails : ∀ count, (console.plainSteps times count 0).failure = none)
    (never_first : ¬ ∃ count, console.FirstStall times count) (count : Nat) :
    (console.plainSteps times count 0).state.machine.stall? = none := by
  -- The least number of steps with a stall would be a first one.
  induction count using Nat.strongRecOn with
  | ind count before =>
    cases stalled : (console.plainSteps times count 0).state.machine.stall? with
    | none => rfl
    | some why =>
      have seen : (console.plainSteps times count 0).state.machine.stall?.isSome = true := by
        rw [stalled]
        rfl
      exact absurd ⟨count, never_fails count, seen, before⟩ never_first

/-- A program that starts at a dead end is first seen to stall after one step. -/
theorem firstStall_of_deadEnd {why : Stall}
    (fresh : console.machine.Fresh) (deadEnd : console.machine.DeadEnd (some why))
    (times : Nat → Nat) : console.FirstStall times 1 := by
  obtain ⟨succeeded, timers, final⟩ := plainSteps_of_deadEnd deadEnd times 0 0
  refine ⟨succeeded, ?_, ?_⟩
  · -- The watch does not look at the timers.
    rw [final]
    exact congrArg Option.isSome deadEnd.stall?_resting
  · intro fewer earlier
    rw [Nat.lt_one_iff.mp earlier]
    exact fresh.stall?_eq_none

end Console

/-- The ticks that so many steps take, the last of them perhaps only in part. -/
def ticksFor (count perTick : Nat) : Nat := (count + perTick - 1) / perTick

/-- So many steps are done at the end of a tick from the last one that they take on. -/
theorem ticksFor_le_iff {perTick : Nat} (positive : 0 < perTick) (count ticks : Nat) :
    ticksFor count perTick ≤ ticks ↔ count ≤ ticks * perTick := by
  -- The quotient is rounded up by the largest remainder that is added to the steps.
  rw [ticksFor, Nat.div_le_iff_le_mul_add_pred positive, Nat.mul_comm perTick ticks]
  omega

namespace Session

variable {session : Session} {times : Nat → Nat} {count : Nat}

/-- A run with enough allowance ends with the tick of the first stall, and any other goes on. -/
theorem runFor_of_firstStall (fresh : session.console.machine.Fresh)
    (positive : 0 < session.stepsPerTick) (first : session.console.FirstStall times count)
    (allowance : Nat) :
    (ticksFor count session.stepsPerTick ≤ allowance ∧
      ∃ why, (session.runFor times allowance 0).ending = .stalled why ∧
        (session.runFor times allowance 0).ticks = ticksFor count session.stepsPerTick) ∨
    (allowance < ticksFor count session.stepsPerTick ∧
      (session.runFor times allowance 0).ending = .allowanceSpent ∧
      (session.runFor times allowance 0).ticks = allowance) := by
  have account := (keeps_start session times).account allowance
  generalize session.runFor times allowance 0 = run at account ⊢
  generalize ends : ticksFor count session.stepsPerTick = last
  -- The stall is seen at the end of a tick exactly from the last one on.
  have seen_iff : ∀ tick, (session.console.plainSteps times
      (tick * session.stepsPerTick) 0).state.machine.stall?.isSome = true ↔ last ≤ tick := by
    intro tick
    rw [first.stalled_iff fresh.recorded, ← ends, ticksFor_le_iff positive]
  have last_pos : 0 < last := by
    rcases Nat.eq_zero_or_pos last with zero | positive
    · -- A stall that takes no tick would be there before the first step.
      have stalled := (seen_iff 0).mpr (Nat.le_of_eq zero)
      rw [Nat.zero_mul] at stalled
      exact absurd (stalled.symm.trans (congrArg Option.isSome fresh.stall?_eq_none)) (by decide)
    · exact positive
  have seen_last := (seen_iff last).mpr (Nat.le_refl last)
  cases account with
  | spent ending ticks succeeded console onward =>
    rcases Nat.lt_or_ge allowance last with short | enough
    · exact Or.inr ⟨short, ending, by omega⟩
    · -- With enough allowance the run would have come to see the stall.
      rw [onward last last_pos (by omega)] at seen_last
      cases seen_last
  | stalled why ending later allowed succeeded console seen onward =>
    have reached : last ≤ run.ticks := (seen_iff run.ticks).mp (by rw [seen]; rfl)
    rcases Nat.lt_or_ge last run.ticks with missed | here
    · -- The run would have ended before.
      rw [onward last last_pos missed] at seen_last
      cases seen_last
    · -- The run saw the first stall at the first end of a tick that comes after it.
      exact Or.inl ⟨by omega, why, ending, Nat.le_antisymm here reached⟩
  | failed why ending allowed failed address console =>
    -- A program that stalls at some time never fails.
    rw [first.never_fails fresh.recorded] at failed
    cases failed

/-- A run that was not ended by a failure answers with its ticks. -/
theorem answer_of_ending {run : Run} (well : ∀ why, run.ending ≠ .failed why) :
    run.answer = .ok run.ticks := by
  unfold Run.answer
  split
  · rename_i why failed
    exact absurd failed (well why)
  · rfl

/--
A run ends with the tick in which its program first stalls, if its limit allows so many. From the
first stall on the program stalls for good and no step fails. A program that neither fails nor
stalls takes every tick that it is allowed.
-/
theorem run_ends_with_first_stall (session : Session) (fresh : session.console.machine.Fresh)
    (positive : 0 < session.stepsPerTick) (times : Nat → Nat) :
    (∀ count, session.console.FirstStall times count →
      (∀ more, count ≤ more → (session.console.plainSteps times more 0).failure = none ∧
        (session.console.plainSteps times more 0).state.machine.stall?.isSome = true) ∧
      (∀ patience, ticksFor count session.stepsPerTick ≤ patience →
        (∃ why, (session.run times 0 patience).ending = .stalled why) ∧
        (session.run times 0 patience).answer = .ok (ticksFor count session.stepsPerTick)) ∧
      (∀ patience, patience < ticksFor count session.stepsPerTick →
        (session.run times 0 patience).ending = .allowanceSpent) ∧
      (∀ ticks patience, 0 < ticks → (session.run times ticks patience).answer =
        .ok (min ticks (ticksFor count session.stepsPerTick)))) ∧
    ((∀ count, (session.console.plainSteps times count 0).failure = none) →
      (¬ ∃ count, session.console.FirstStall times count) →
      (∀ ticks patience, 0 < ticks → (session.run times ticks patience).answer = .ok ticks) ∧
      ∀ patience, (session.run times 0 patience).ending = .allowanceSpent ∧
        (session.run times 0 patience).ticks = patience) := by
  constructor
  · intro count first
    refine ⟨fun more later => first.lasts fresh.recorded later, ?_, ?_, ?_⟩
    · intro patience enough
      rw [run_unlimited]
      -- Whoever has the patience sees the run end.
      rcases runFor_of_firstStall fresh positive first patience with
        ⟨_, why, ending, ticks⟩ | ⟨short, _⟩
      · refine ⟨⟨why, ending⟩, ?_⟩
        rw [answer_of_ending (by rw [ending]; exact fun _ => nofun), ticks]
      · omega
    · intro patience short
      rw [run_unlimited]
      rcases runFor_of_firstStall fresh positive first patience with ⟨enough, _⟩ | ⟨_, ending, _⟩
      · omega
      · exact ending
    · intro ticks patience limited
      rw [run_of_pos limited]
      -- The run ends at its limit or with the stall, whichever comes first.
      rcases runFor_of_firstStall fresh positive first ticks with
        ⟨enough, why, ending, ran⟩ | ⟨short, ending, ran⟩
      · rw [answer_of_ending (by rw [ending]; exact fun _ => nofun), ran,
          Nat.min_eq_right enough]
      · rw [answer_of_ending (by rw [ending]; exact fun _ => nofun), ran,
          Nat.min_eq_left (Nat.le_of_lt short)]
  · intro never_fails never_first
    -- Without a stall at any number of steps none is seen at the end of a tick.
    have never_seen := Console.never_stalls never_fails never_first
    constructor
    · intro ticks patience limited
      obtain ⟨ending, ran⟩ := runFor_of_unseen never_fails never_seen ticks
      rw [run_of_pos limited, answer_of_ending (by rw [ending]; exact fun _ => nofun), ran]
    · intro patience
      rw [run_unlimited]
      exact runFor_of_unseen never_fails never_seen patience

/-- A jump to itself at the start is first seen after one step, and ends a run after one tick. -/
theorem run_ends_with_first_stall_jump :
    let session : Session :=
      { console := .around (.booted 0 (.ofList [0x12, 0x00]) .released), stepsPerTick := 10 }
    session.console.machine.Fresh ∧ 0 < session.stepsPerTick ∧
      session.console.FirstStall id 1 ∧ (session.run id 0 5).answer = .ok 1 ∧
      (session.run id 120 0).answer = .ok 1 := by
  intro session
  have fresh : session.console.machine.Fresh :=
    Machine.fresh_iff.mpr ⟨0, .ofList [0x12, 0x00], .released, by decide, rfl⟩
  have word : session.console.machine.nextWord = 0x1200 := Machine.nextWord_booted 0 _ _
  have jump : Instruction.decode 0x1200 = .jump 0x200 := by decide
  -- The jump to itself is a dead end from the start.
  have first : session.console.FirstStall id 1 :=
    Console.firstStall_of_deadEnd fresh (.selfJump rfl (word ▸ jump)) id
  obtain ⟨stalls, _⟩ := run_ends_with_first_stall session fresh (by decide) id
  obtain ⟨_, unlimited, _, limited⟩ := stalls 1 first
  have last : ticksFor 1 session.stepsPerTick = 1 := by decide
  rw [last] at unlimited limited
  exact ⟨fresh, by decide, first, (unlimited 5 (by decide)).2, limited 120 0 (by decide)⟩

end Session

end ChipEight
