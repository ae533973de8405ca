import ChipEight.Proofs.Console.Course
import ChipEight.Proofs.Machine.Reachable

/-! Time reaches a program through the delay timer alone. -/

namespace ChipEight

/-- Deeds go together with themselves at the moments at which they are done. -/
theorem Deed.matches_self (deeds : List Deed) : List.Forall₂ (Deed.Matches Eq) deeds deeds := by
  -- Each deed is one and the same on both sides.
  apply List.forall₂_same.mpr
  intro deed _
  cases deed with
  | step now => exact .step rfl
  | setKey key held => exact .setKey key held
  | releaseKeys => exact .releaseKeys

namespace Machine

variable {machine other : Machine}

/-- Machines that have all but the sound timer in common differ in its value. -/
theorem Agrees.eq_setSound (agrees : machine.Agrees other) (record : machine.SameRecord other)
    (timers : machine.timers.SameDelay other.timers) :
    other = machine.setSound other.timers.sound := by
  have shown : machine.timers.setSound other.timers.sound = other.timers := by
    rw [Timers.setSound, timers.delay, timers.lastCount]
  -- The record is the same, so the timers are all that is told apart.
  have frame := agrees.eq_with
  rw [← record.1, ← record.2] at frame
  rw [setSound, shown]
  exact frame

end Machine

namespace Console

/--
Time reaches a program through the delay timer alone. The moments of its steps and all that its
timers show make no difference to a program that never reads the delay timer. At the same moments,
the value of the sound timer makes no difference to any program.
-/
theorem time_enters_by_delay (console other : Console)
    (upcoming : console.entropy.Same other.entropy) :
    (console.machine.Agrees other.machine →
      ∀ deeds deeds', List.Forall₂ (Deed.Matches fun _ _ => True) deeds deeds' →
      ¬ console.StepsFrom Machine.ReadsDelay deeds →
      ¬ other.StepsFrom Machine.ReadsDelay deeds' ∧
        console.failures deeds = other.failures deeds' ∧
        (console.after deeds).machine.Agrees (other.after deeds').machine ∧
        (console.StepsFrom (fun machine => machine.halted = false) deeds →
          (console.after deeds).machine.SameRecord (other.after deeds').machine)) ∧
    ∀ sound, other.machine = console.machine.setSound sound → ∀ deeds,
      console.failures deeds = other.failures deeds ∧
        ∃ later, (other.after deeds).machine = (console.after deeds).machine.setSound later := by
  constructor
  · intro agrees deeds deeds' same never
    -- Nothing has to be known of the timers, so nothing has to be kept.
    have linked : console.Linked (fun _ _ => True) other := ⟨agrees, True.intro, upcoming⟩
    have alike := linked.parallel Timers.lasting_unlinked same (Or.inr never)
    exact ⟨fun reads => never (alike.reads reads), alike.failures, alike.linked.agrees,
      fun ran => alike.record (Or.inr ran)⟩
  · intro sound set deeds
    have linked : console.Linked Timers.SameDelay other := by
      refine ⟨?_, ?_, upcoming⟩
      · rw [set]
        exact console.machine.agrees_withTimers _
      · rw [set]
        exact ⟨rfl, rfl⟩
    have record : console.machine.SameRecord other.machine := by
      rw [set]
      exact ⟨rfl, rfl⟩
    -- The delay timers stay in step, whether or not they are read.
    have alike := linked.parallel Timers.lasting_sameDelay (Deed.matches_self deeds)
      (Or.inl fun _ _ same => same.delay)
    exact ⟨alike.failures, _, alike.linked.agrees.eq_setSound (alike.record (Or.inl record))
      alike.linked.timers⟩

/-- A program that sets the delay timer does so alike at two speeds, and with the tone on. -/
theorem time_enters_by_delay_set :
    let console := around (Machine.booted 0 (.ofList [0x60, 0x05, 0xF0, 0x15]) .released)
    let other := console.withMachine { console.machine with timers := ⟨9, 9, 70000000⟩ }
    let loud := console.withMachine (console.machine.setSound 7)
    ¬ console.StepsFrom Machine.ReadsDelay [.step 0, .step 20000000] ∧
      console.failures [.step 0, .step 20000000] = other.failures [.step 90000000, .step 5] ∧
      (console.after [.step 0, .step 20000000]).machine.registers =
        (other.after [.step 90000000, .step 5]).machine.registers ∧
      ∃ later, (loud.after [.step 0, .step 20000000]).machine =
        (console.after [.step 0, .step 20000000]).machine.setSound later := by
  intro console other loud
  -- Both words are those of the program, and neither of them reads a timer.
  have first : console.machine.nextWord = 0x6005 := Machine.nextWord_booted 0 _ _
  have done : console.machine.attempt console.entropy.next =
      .ok { machine := console.machine.underway.setReg 0 5 } := by
    rw [Machine.attempt, first]
    rfl
  have second : (console.step 0).state.machine.nextWord = 0xF015 := by
    rw [(step_machine console 0).2, Machine.step_of_ok rfl done]
    -- The program is still in place.
    exact (Machine.wordAt_booted 0 (.ofList [0x60, 0x05, 0xF0, 0x15]) .released 2
      (by decide)).trans (by decide)
  have never : ¬ console.StepsFrom Machine.ReadsDelay [.step 0, .step 20000000] := by
    rintro (⟨_, _, x, word⟩ | ⟨_, _, x, word⟩ | none)
    · rw [first] at word
      exact absurd word (by revert x; decide)
    · replace word := second.symm.trans word
      exact absurd word (by revert x; decide)
    · exact none
  have same : List.Forall₂ (Deed.Matches fun _ _ => True) [.step 0, .step 20000000]
      [.step 90000000, .step 5] := .cons (.step True.intro) (.cons (.step True.intro) .nil)
  obtain ⟨moments, _⟩ := time_enters_by_delay console other fun _ => rfl
  obtain ⟨_, failures, agrees, _⟩ := moments (Machine.agrees_withTimers _ _) _ _ same never
  obtain ⟨_, tones⟩ := time_enters_by_delay console loud fun _ => rfl
  exact ⟨never, failures, agrees.registers, (tones 7 rfl _).2⟩

end Console

end ChipEight
