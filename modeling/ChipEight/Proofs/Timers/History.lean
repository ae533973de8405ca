import Mathlib.Data.List.Chain
import ChipEight.Proofs.Timers.Period

/-! Whatever is done to the timers, they count sixty times a second of the host's time. -/

namespace ChipEight

/-- One of the two timers. -/
inductive Dial where
  | delay
  | sound
deriving DecidableEq

/-- What can be done to the timers. -/
inductive TimerUse where
  /-- They look at the clock at a moment. -/
  | look (now : Nat)
  /-- One of them is given a value, whether or not through a handle. -/
  | write (dial : Dial) (value : UInt8)
deriving DecidableEq

/-- The moments at which the timers look at the clock. -/
def TimerUse.moments (uses : List TimerUse) : List Nat :=
  uses.filterMap fun
    | .look now => some now
    | .write _ _ => none

namespace Timers

open TimerUse

/-- What one of the timers shows. -/
def value (timers : Timers) : Dial → UInt8
  | .delay => timers.delay
  | .sound => timers.sound

/-- The timers after something was done to them. -/
def use (timers : Timers) : TimerUse → Timers
  | .look now => timers.update now
  | .write .delay value => timers.setDelay value
  | .write .sound value => timers.setSound value

/-- The timers after a number of things were done to them, one after the other. -/
def useAll (timers : Timers) (uses : List TimerUse) : Timers := uses.foldl use timers

/-- One if the moment of the last count moves, and zero if it stays. -/
def counted (timers : Timers) (next : TimerUse) : Nat :=
  if (timers.use next).lastCount = timers.lastCount then 0 else 1

/-- How often the moment of the last count moves. -/
def counts (timers : Timers) : List TimerUse → Nat
  | [] => 0
  | next :: later => timers.counted next + (timers.use next).counts later

/-- A look at the clock is a count when a period has passed since the last one. -/
theorem update_eq (timers : Timers) (now : Nat) :
    timers.update now =
      if timers.lastCount + periodNanos ≤ now then
        ⟨countDown timers.delay, countDown timers.sound, now⟩
      else timers := by
  -- No time has passed at a moment before the last count.
  have positive : 0 < periodNanos := by decide
  have due : timers.isDue now = true ↔ timers.lastCount + periodNanos ≤ now := by
    rw [isDue, timerPeriod_atMost_iff]
    omega
  simp only [update, due]

/-- All that can come of doing something to the timers, with the number of counts in it. -/
inductive Used (timers : Timers) : TimerUse → Timers → Nat → Prop where
  /-- A look at the clock before the period has passed. -/
  | early {now : Nat} (short : now < timers.lastCount + periodNanos) :
    Used timers (.look now) timers 0
  /-- A look at the clock when the period has passed. -/
  | due {now : Nat} (passed : timers.lastCount + periodNanos ≤ now) :
    Used timers (.look now) ⟨countDown timers.delay, countDown timers.sound, now⟩ 1
  /-- A value is written, and the clock does not matter. -/
  | written {after : Timers} (dial : Dial) (value : UInt8)
      (same : after.lastCount = timers.lastCount) (set : after.value dial = value)
      (other : ∀ apart ≠ dial, after.value apart = timers.value apart) :
    Used timers (.write dial value) after 0

/-- Whatever is done to the timers is one of three. -/
theorem used (timers : Timers) (next : TimerUse) :
    Used timers next (timers.use next) (timers.counted next) := by
  unfold counted
  -- A write moves no count, and a look moves it when it is due.
  cases next with
  | look now =>
    by_cases passed : timers.lastCount + periodNanos ≤ now
    · -- The count moves to a later moment.
      have counted : timers.use (.look now) =
          ⟨countDown timers.delay, countDown timers.sound, now⟩ := by
        rw [use, update_eq, if_pos passed]
      have positive : 0 < periodNanos := by decide
      have moved : ¬ now = timers.lastCount := by omega
      rw [counted, if_neg moved]
      exact .due passed
    · have idle : timers.use (.look now) = timers := by
        rw [use, update_eq, if_neg passed]
      rw [idle, if_pos rfl]
      exact .early (Nat.not_le.mp passed)
  | write dial value =>
    have same : (timers.use (.write dial value)).lastCount = timers.lastCount := by
      cases dial <;> rfl
    rw [if_pos same]
    refine .written dial value same ?_ fun apart different => ?_
    · cases dial <;> rfl
    · cases dial <;> cases apart <;> first | rfl | exact absurd rfl different

/-- All that can come of doing things to the timers one after the other. -/
inductive History : Timers → List TimerUse → Timers → Nat → Prop where
  /-- Nothing is done. -/
  | nothing (timers : Timers) : History timers [] timers 0
  /-- Something is done first. -/
  | andThen {timers middle after : Timers} {next : TimerUse} {later : List TimerUse}
      {counted counts : Nat} (first : Used timers next middle counted)
      (rest : History middle later after counts) :
    History timers (next :: later) after (counted + counts)

/-- Things done one after the other make a history. -/
theorem history (timers : Timers) (uses : List TimerUse) :
    History timers uses (timers.useAll uses) (timers.counts uses) := by
  -- The first use is one of three, and the others start from what it left.
  induction uses generalizing timers with
  | nil => exact .nothing timers
  | cons next later ih => exact .andThen (timers.used next) (ih (timers.use next))

variable {timers after : Timers} {uses : List TimerUse} {counts : Nat}

/-- The last count lies at least a period further on for each count. -/
theorem History.lastCount_le (history : History timers uses after counts) :
    timers.lastCount + counts * periodNanos ≤ after.lastCount := by
  -- What is not a count leaves the moment of the last one where it is.
  induction history with
  | nothing timers =>
    rw [Nat.zero_mul]
    exact Nat.le_refl _
  | andThen first rest ih =>
    rw [Nat.add_mul]
    cases first with
    | early short => omega
    | due passed =>
      dsimp only at ih
      omega
    | written dial value same => omega

/--
If the timers look at the clock often enough, no look is later than the moment at which they would
be due once more if each count came as late as it can.
-/
theorem History.moment_lt (history : History timers uses after counts) {gap previous : Nat}
    (recent : previous < timers.lastCount + periodNanos)
    (paced : (previous :: moments uses).IsChain fun earlier later => later ≤ earlier + gap) :
    ∀ moment ∈ moments uses,
      moment < timers.lastCount + counts * (periodNanos + gap - 1) + periodNanos := by
  have positive : 0 < periodNanos := by decide
  -- The look before stays less than a period behind the last count.
  induction history generalizing previous with
  | nothing timers => exact nofun
  | andThen first rest ih =>
    rw [Nat.add_mul]
    cases first with
    | written dial value same =>
      -- The look before is still the same.
      intro moment member
      have bound := ih (by omega) paced moment member
      omega
    | early short =>
      obtain ⟨near, further⟩ := List.isChain_cons_cons.mp paced
      intro moment member
      rcases List.mem_cons.mp member with rfl | member
      · -- The look itself came before a period had passed.
        omega
      · have bound := ih short further moment member
        omega
    | due passed =>
      obtain ⟨near, further⟩ := List.isChain_cons_cons.mp paced
      -- The count is at most a gap later than a moment at which it was not due.
      have bounds := ih (Nat.lt_add_of_pos_right positive) further
      dsimp only at bounds
      intro moment member
      rcases List.mem_cons.mp member with rfl | member
      · omega
      · have bound := bounds moment member
        omega

/-- A timer goes down by one with a count until it is at zero. -/
theorem toNat_countDown (timer : UInt8) : (countDown timer).toNat = timer.toNat - 1 := by
  unfold countDown
  split
  · rename_i zero
    rw [zero]
    rfl
  · rename_i running
    -- A timer that is not at zero does not wrap around.
    have positive : timer.toNat ≠ 0 := fun zero => running (UInt8.toNat_inj.mp zero)
    have small := timer.toNat_lt
    rw [UInt8.toNat_sub]
    simp only [UInt8.toNat_ofNat]
    omega

/-- A timer that is not written to goes down by one with each count. -/
theorem History.toNat_value (history : History timers uses after counts) {dial : Dial}
    (unwritten : ∀ value, .write dial value ∉ uses) :
    (after.value dial).toNat = (timers.value dial).toNat - counts := by
  -- The count of the first use is taken off before those of the rest.
  induction history with
  | nothing timers => rfl
  | andThen first rest ih =>
    rw [ih fun value member => unwritten value (List.mem_cons_of_mem _ member), ← Nat.sub_sub]
    cases first with
    | early short => rfl
    | due passed =>
      cases dial with
      | delay => exact congrArg (· - _) (toNat_countDown _)
      | sound => exact congrArg (· - _) (toNat_countDown _)
    | written other value same set others =>
      -- What was written is the other timer.
      have apart : dial ≠ other := by
        rintro rfl
        exact unwritten value (List.mem_cons_self ..)
      rw [others dial apart]
      rfl

/-- Things done one after the other are those done first and then the others. -/
theorem useAll_append (timers : Timers) (earlier later : List TimerUse) :
    timers.useAll (earlier ++ later) = (timers.useAll earlier).useAll later := by
  -- The uses are folded from the first on.
  simp only [useAll, List.foldl_append]

/-- What is written to a timer is what it shows. -/
theorem value_write (timers : Timers) (dial : Dial) (value : UInt8) :
    (timers.use (.write dial value)).value dial = value := by
  -- Each timer has a field of its own.
  cases dial <;> rfl

/--
The timers follow the clock whatever is done to them. A count comes exactly when a sixtieth of a
second has passed since the last one, so no more counts come than there were periods. Those that are
missed for want of a look at the clock are no more than the gaps between the looks account for. Each
timer shows the value that it was given last, less the counts since then.
-/
theorem counts_follow_clock (start : Nat) (uses : List TimerUse) :
    (nanosPerSecond ≤ 60 * periodNanos ∧
      ∀ shorter < periodNanos, 60 * shorter < nanosPerSecond) ∧
    ((∀ earlier later, uses = earlier ++ later →
        ((restart start).useAll earlier).lastCount ≤ ((restart start).useAll uses).lastCount) ∧
      start + (restart start).counts uses * periodNanos ≤
        ((restart start).useAll uses).lastCount ∧
      ∀ now, (((restart start).useAll uses).update now).lastCount ≠
          ((restart start).useAll uses).lastCount ↔
        ((restart start).useAll uses).lastCount + periodNanos ≤ now) ∧
    (∀ gap, ((start :: moments uses).IsChain fun earlier later => later ≤ earlier + gap) →
      ∀ moment ∈ moments uses, moment - start ≤
        (restart start).counts uses * (periodNanos + gap - 1) + (periodNanos - 1)) ∧
    ∀ dial,
      ((∀ value, .write dial value ∉ uses) → ((restart start).useAll uses).value dial = 0) ∧
      ∀ earlier value later, uses = earlier ++ .write dial value :: later →
        (∀ other, .write dial other ∉ later) →
        (((restart start).useAll uses).value dial).toNat = value.toNat -
          ((restart start).useAll (earlier ++ [.write dial value])).counts later := by
  have positive : 0 < periodNanos := by decide
  have begun : (restart start).lastCount = start := rfl
  -- Both bounds and the values are read off the history of all the uses.
  have whole := history (restart start) uses
  have further := whole.lastCount_le
  rw [begun] at further
  refine ⟨periodNanos_least, ⟨?_, further, ?_⟩, ?_, fun dial => ⟨?_, ?_⟩⟩
  · rintro earlier later rfl
    -- The later uses are a history of their own.
    have rest := (history ((restart start).useAll earlier) later).lastCount_le
    rw [useAll_append]
    omega
  · -- A look that is due moves the last count, and one that is not leaves it.
    intro now
    rw [update_eq]
    split
    · rename_i passed
      exact iff_of_true (by dsimp only; omega) passed
    · rename_i short
      exact iff_of_false (not_not_intro rfl) short
  · -- The first look is compared with the start, and so are all others through those before.
    intro gap paced moment member
    have bound := whole.moment_lt (Nat.lt_add_of_pos_right positive) paced moment member
    omega
  · intro unwritten
    -- At the start both timers are at zero.
    have shown := whole.toNat_value unwritten
    have zero : ((restart start).value dial).toNat = 0 := by cases dial <;> rfl
    rw [zero, Nat.zero_sub] at shown
    exact UInt8.toNat_inj.mp shown
  · -- From the last write on the timer is left alone, so only the counts are taken off.
    rintro earlier value later rfl unwritten
    have since :=
      (history ((restart start).useAll (earlier ++ [.write dial value])) later).toNat_value
        unwritten
    have written :
        ((restart start).useAll (earlier ++ [.write dial value])).value dial = value := by
      rw [useAll_append]
      exact value_write _ dial value
    rw [written] at since
    rw [← since, ← useAll_append, List.append_assoc]
    rfl

/-- Two counts are found in six uses, one of them a look at a clock that went back. -/
theorem counts_follow_clock_late :
    let uses : List TimerUse := [.write .delay 3, .look 16667666, .look 16667667,
      .write .sound 5, .look 500, .look 33334334]
    ((1000 :: moments uses).IsChain fun earlier later => later ≤ earlier + 33333834) ∧
      (restart 1000).counts uses = 2 ∧
      33334334 - 1000 ≤ 2 * (periodNanos + 33333834 - 1) + (periodNanos - 1) ∧
      (((restart 1000).useAll uses).value .delay).toNat = 3 - 2 ∧
      (((restart 1000).useAll uses).value .sound).toNat = 5 - 1 := by
  intro uses
  obtain ⟨_, _, late, shown⟩ := counts_follow_clock 1000 uses
  have paced : (1000 :: moments uses).IsChain fun earlier later => later ≤ earlier + 33333834 := by
    decide
  -- The second and the last of the four looks are due.
  have two : (restart 1000).counts uses = 2 := by
    simp [uses, counts, counted, use, update_eq, restart, setDelay, setSound, periodNanos]
  refine ⟨paced, two, ?_, ?_, ?_⟩
  · have bound := late 33333834 paced 33334334 (by decide)
    rwa [two] at bound
  · have since := (shown .delay).2 [] 3 _ rfl (by simp)
    simpa [uses, counts, counted, use, useAll, update_eq, restart, setDelay, setSound, periodNanos]
      using since
  · have since := (shown .sound).2 [.write .delay 3, .look 16667666, .look 16667667] 5 _ rfl
      (by simp)
    simpa [uses, counts, counted, use, useAll, update_eq, restart, setDelay, setSound, periodNanos]
      using since

end Timers

end ChipEight
