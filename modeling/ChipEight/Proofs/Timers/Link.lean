import ChipEight.Proofs.Timers.History

/-! Pairs of timers to which the same is done, at moments that need not be the same. -/

namespace ChipEight

/-- The same use of two pairs of timers, up to the moments at which they look at the clock. -/
inductive TimerUse.Matches (moments : Nat → Nat → Prop) : TimerUse → TimerUse → Prop where
  /-- A look at the clock at two moments that go together. -/
  | look {now other : Nat} (together : moments now other) :
    Matches moments (.look now) (.look other)
  /-- The same value in the same timer. -/
  | write (dial : Dial) (value : UInt8) : Matches moments (.write dial value) (.write dial value)

namespace Timers

/-- A link between timers that lasts when both are used in the same way. -/
def Lasting (link : Timers → Timers → Prop) (moments : Nat → Nat → Prop) : Prop :=
  ∀ timers other next next', link timers other → TimerUse.Matches moments next next' →
    link (timers.use next) (other.use next')

/-- A link that one use leaves standing is left standing by any number of them. -/
theorem Lasting.useAll {link : Timers → Timers → Prop} {moments : Nat → Nat → Prop}
    (lasting : Lasting link moments) {uses uses' : List TimerUse}
    (same : List.Forall₂ (TimerUse.Matches moments) uses uses') {timers other : Timers}
    (linked : link timers other) : link (timers.useAll uses) (other.useAll uses') := by
  -- Both timers move on with the first use.
  induction same generalizing timers other with
  | nil => exact linked
  | cons first rest ih => exact ih (lasting _ _ _ _ linked first)

/-- Timers that have nothing to do with each other can be used at any moments. -/
theorem lasting_unlinked : Lasting (fun _ _ => True) fun _ _ => True :=
  fun _ _ _ _ _ _ => True.intro

/-- Two pairs of timers that differ at most in the one that makes the tone sound. -/
structure SameDelay (timers other : Timers) : Prop where
  delay : timers.delay = other.delay
  lastCount : timers.lastCount = other.lastCount

/-- Two pairs of timers that show the same, each with the last count as long after its start. -/
structure Shifted (start start' : Nat) (timers other : Timers) : Prop where
  delay : timers.delay = other.delay
  sound : timers.sound = other.sound
  lastCount : timers.lastCount + start' = other.lastCount + start

/-- At the same moments, what the tone does is of no matter to the delay timer. -/
theorem lasting_sameDelay : Lasting SameDelay Eq := by
  intro timers other next next' linked same
  cases same with
  | write dial value =>
    -- A value that is written to the delay timers is the same in both.
    cases dial with
    | delay => exact ⟨rfl, linked.lastCount⟩
    | sound => exact ⟨linked.delay, linked.lastCount⟩
  | @look now _ together =>
    subst together
    show SameDelay (timers.update now) (other.update now)
    rw [update_eq, update_eq, ← linked.lastCount]
    -- A count comes for both or for neither.
    split
    · exact ⟨congrArg countDown linked.delay, rfl⟩
    · exact linked

/-- Moments as long after the one start as after the other make no difference to the timers. -/
theorem lasting_shifted (start start' : Nat) :
    Lasting (Shifted start start') fun now other => now + start' = other + start := by
  intro timers other next next' linked same
  cases same with
  -- A write is no look at the clock, so it moves neither last count.
  | write dial value =>
    cases dial with
    | delay => exact ⟨rfl, linked.sound, linked.lastCount⟩
    | sound => exact ⟨linked.delay, rfl, linked.lastCount⟩
  | @look now later together =>
    have lastCount := linked.lastCount
    show Shifted start start' (timers.update now) (other.update later)
    rw [update_eq, update_eq]
    -- As much time has passed since the one last count as since the other.
    by_cases passed : timers.lastCount + periodNanos ≤ now
    · have passed' : other.lastCount + periodNanos ≤ later := by omega
      rw [if_pos passed, if_pos passed']
      exact ⟨congrArg countDown linked.delay, congrArg countDown linked.sound, together⟩
    · have short : ¬ other.lastCount + periodNanos ≤ later := by omega
      rw [if_neg passed, if_neg short]
      exact linked

end Timers

end ChipEight
