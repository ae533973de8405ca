import ChipEight.Proofs.Console.Steps
import ChipEight.Proofs.Console.Usage
import ChipEight.Session.Basic

/-! The records of the tone: when a session makes one, that they alternate and tell the truth. -/

namespace ChipEight

/-- What an event says of the tone, if it is a record of that. -/
def Event.sound? : Event → Option Bool
  | .sound on => some on
  | _ => none

namespace Journal

/-- The records of the tone, oldest first. -/
def sounds (journal : Journal) : List Bool := journal.entries.toList.filterMap Event.sound?

/-- Whether records of the tone are detailed enough for the journal. -/
def WantsSounds (journal : Journal) : Prop := Level.info.rank ≤ journal.level.rank

/-- Two journals that want the same and hold the same records of the tone. -/
structure SameSounds (journal other : Journal) : Prop where
  level : other.level = journal.level
  sounds : other.sounds = journal.sounds

variable {journal other third : Journal}

theorem SameSounds.refl (journal : Journal) : journal.SameSounds journal := ⟨rfl, rfl⟩

theorem SameSounds.trans (first : journal.SameSounds other) (second : other.SameSounds third) :
    journal.SameSounds third :=
  ⟨second.level.trans first.level, second.sounds.trans first.sounds⟩

/-- What is wanted of a journal is not for events to say. -/
theorem level_write (journal : Journal) (event : Event) :
    (journal.write event).level = journal.level := by
  unfold write
  split <;> rfl

/-- Every event but a record of the tone leaves those as they were, kept or not. -/
theorem sameSounds_write (journal : Journal) {event : Event} (silent : event.sound? = none) :
    journal.SameSounds (journal.write event) := by
  refine ⟨level_write journal event, ?_⟩
  unfold write
  split
  · -- The event was kept, and is passed over where the tone is looked for.
    simp [sounds, silent]
  · rfl

/-- The same goes for several events. -/
theorem sameSounds_writeAll (journal : Journal) {events : List Event}
    (silent : ∀ event ∈ events, event.sound? = none) :
    journal.SameSounds (journal.writeAll events) := by
  induction events generalizing journal with
  | nil => exact .refl journal
  | cons event rest ih =>
    have first := journal.sameSounds_write (silent event List.mem_cons_self)
    exact first.trans (ih _ fun other listed => silent other (List.mem_cons_of_mem _ listed))

/-- A record of the tone comes last, if it is wanted. -/
theorem sounds_write_sound (wanted : journal.WantsSounds) (on : Bool) :
    (journal.write (.sound on)).sounds = journal.sounds ++ [on] := by
  have kept : (Event.sound on).level.rank ≤ journal.level.rank := wanted
  -- The journal keeps the record, so it is the last of them.
  simp [write, kept, sounds, Event.sound?]

/-- A record of the tone is dropped if it is not wanted. -/
theorem write_sound_of_unwanted (unwanted : ¬ journal.WantsSounds) (on : Bool) :
    journal.write (.sound on) = journal :=
  if_neg unwanted

end Journal

namespace Console

variable {console : Console}

/-- A step reports the word that it carries out, and nothing of the tone. -/
theorem sameSounds_step (console : Console) (now : Nat) :
    console.journal.SameSounds (console.step now).state.journal := by
  -- All that a step reports it reports before the word is carried out.
  show console.journal.SameSounds console.prepared.journal
  unfold prepared
  split
  · exact .refl _
  · refine Journal.sameSounds_writeAll _ fun event listed => ?_
    -- There is a second event for a word that stands for nothing.
    unfold Event.announcing at listed
    split at listed <;> simp only [List.mem_cons, List.not_mem_nil, or_false] at listed
    · rcases listed with rfl | rfl <;> rfl
    · rw [listed]
      rfl

/-- Steps report nothing of the tone, whether or not they fail. -/
theorem sameSounds_plainSteps (console : Console) (times : Nat → Nat) (count done : Nat) :
    console.journal.SameSounds (console.plainSteps times count done).state.journal := by
  induction count generalizing console done with
  | zero => exact .refl _
  | succ count ih =>
    -- No step makes a record, and after a failure there is no other.
    have first := console.sameSounds_step (times done)
    cases stepped : (console.step (times done)).failure with
    | some fault =>
      rw [plainSteps_succ_of_error _ stepped]
      exact first
    | none =>
      rw [plainSteps_succ_of_ok _ stepped]
      exact first.trans (ih _ _)

/-- A program that is loaded is reported by its size, and one that is refused is not. -/
theorem sameSounds_load (console : Console) (rom : Bytes) :
    console.journal.SameSounds (console.load rom).state.journal := by
  rcases Nat.lt_or_ge maxRomSize rom.size with large | fits
  · rw [load_of_large console large]
    exact .refl _
  · -- The report is of a kind that says nothing of the tone.
    rw [load_of_fits console fits, journal_note, journal_withMachine]
    exact Journal.sameSounds_write _ rfl

/-- A reset is reported as such. -/
theorem sameSounds_reset (console : Console) (now : Nat) :
    console.journal.SameSounds (console.reset now).journal := by
  rw [reset, journal_note, releaseKeys]
  exact Journal.sameSounds_write _ rfl

/-- Nothing that a host does with a console makes a record of the tone. -/
theorem sameSounds_use (use : Use console) :
    console.journal.SameSounds use.outcome.state.journal := by
  cases use with
  | step now => exact console.sameSounds_step now
  | load rom => exact console.sameSounds_load rom
  | loadHex text =>
    rw [Use.outcome, loadHex]
    -- A text that spells no bytes is refused before there is anything to load.
    cases HexText.decode text with
    | error fault => exact .refl _
    | ok rom => exact console.sameSounds_load rom
  | reset now => exact console.sameSounds_reset now
  | resetAndLoad now rom => exact (console.sameSounds_reset now).trans (sameSounds_load _ rom)
  | write | writeAll | setKey | setKeyThrough | releaseKeys =>
    -- The journal has to be in sight, or else what was written is compared first.
    simp only [Use.outcome, Outcome.map, withMemory, Console.setKey, Console.setKeyThrough,
      Console.releaseKeys]
    exact .refl _
  | connectKeys | duplicateKeys | connectSound | storeSoundThrough => exact .refl _

end Console

namespace Session

variable {session : Session}

/-- The tone is as it was at the last look. -/
theorem watchSound_of_same (same : session.console.machine.timers.isSounding = session.soundOn) :
    session.watchSound = session := by
  simp only [watchSound, same, if_true]

/-- The tone has started or stopped since the last look. -/
theorem watchSound_of_changed
    (changed : session.console.machine.timers.isSounding = !session.soundOn) :
    session.watchSound =
      { session.note (.sound !session.soundOn) with soundOn := !session.soundOn } := by
  have apart : (!session.soundOn) ≠ session.soundOn := by simp
  simp only [watchSound, changed, if_neg apart]

/-- After a look at the tone it is known whether it sounds, and the machine is as it was. -/
theorem watchSound_shows (session : Session) :
    session.watchSound.soundOn = session.console.machine.timers.isSounding ∧
      session.watchSound.console.machine = session.console.machine := by
  by_cases same : session.console.machine.timers.isSounding = session.soundOn
  · rw [watchSound_of_same same]
    exact ⟨same.symm, rfl⟩
  · rw [watchSound_of_changed (Bool.eq_not_of_ne same)]
    exact ⟨(Bool.eq_not_of_ne same).symm, rfl⟩

/-- A look at the tone makes one record or none. -/
theorem exists_records_watchSound (session : Session) :
    ∃ records : List Bool, records.length ≤ 1 ∧
      session.watchSound.console.journal.sounds = session.console.journal.sounds ++ records := by
  by_cases same : session.console.machine.timers.isSounding = session.soundOn
  · -- Without a change there is no record.
    rw [watchSound_of_same same]
    exact ⟨[], Nat.zero_le 1, (List.append_nil _).symm⟩
  · rw [watchSound_of_changed (Bool.eq_not_of_ne same)]
    by_cases wanted : session.console.journal.WantsSounds
    · exact ⟨[_], Nat.le_refl 1, Journal.sounds_write_sound wanted _⟩
    · -- The record is made, and the journal drops it.
      refine ⟨[], Nat.zero_le 1, ?_⟩
      rw [List.append_nil]
      exact congrArg Journal.sounds (Journal.write_sound_of_unwanted wanted _)

/-- What comes of a tick. -/
inductive Ticked (session : Session) (times : Nat → Nat) (first : Nat) :
    Outcome StepFault Session → Prop where
  /-- All steps were done, and then there was a look at the tone. -/
  | completed {after : Session} (done : Console)
      (ran : session.console.plainSteps times session.stepsPerTick first = { state := done })
      (machine : after.console.machine = done.machine)
      (shown : after.soundOn = true ↔ 0 < after.console.machine.timers.sound)
      (records : List Bool) (few : records.length ≤ 1)
      (emitted : after.console.journal.sounds = session.console.journal.sounds ++ records) :
    Ticked session times first { state := after }
  /-- A step failed after some others, and nobody looked at the tone. -/
  | failed {after : Session} {why : StepFault} (before : Nat)
      (fewer : before < session.stepsPerTick)
      (reached : Console)
      (ran : session.console.plainSteps times before first = { state := reached })
      (last : reached.step (times (first + before)) =
        { state := after.console, failure := some why.fault })
      (noted : after.console.machine = reached.machine.noted)
      (place : why.address = reached.machine.pc)
      (kept : after.soundOn = session.soundOn)
      (silent : after.console.journal.sounds = session.console.journal.sounds) :
    Ticked session times first { state := after, failure := some why }

/-- A tick runs all of its steps, or those up to one that fails. -/
theorem ticked (session : Session) (times : Nat → Nat) (ticksBefore : Nat) :
    session.Ticked times (ticksBefore * session.stepsPerTick) (session.tick times ticksBefore) := by
  have silent := session.console.sameSounds_plainSteps times session.stepsPerTick
    (ticksBefore * session.stepsPerTick)
  rw [tick, Console.steps_eq_plainSteps]
  cases failed : (session.console.plainSteps times session.stepsPerTick
      (ticksBefore * session.stepsPerTick)).failure with
  | some fault =>
    obtain ⟨before, fewer, reached, ran, last⟩ := Console.exists_last_step failed
    rw [last] at silent failed ⊢
    -- The failure is that of the last step, and the tone was left as it was.
    refine .failed before fewer reached ran ?_ (Console.machine_of_step_error failed)
      (Console.pc_of_step_error failed) rfl silent.sounds
    rw [← failed]
  | none =>
    -- No step failed, so the outcome is a console and nothing else.
    generalize ran : session.console.plainSteps times session.stepsPerTick
      (ticksBefore * session.stepsPerTick) = outcome at silent failed ⊢
    obtain ⟨done, failure⟩ := outcome
    obtain rfl : failure = none := failed
    -- The tone is looked at on the console that the steps left.
    obtain ⟨shown, machine⟩ := watchSound_shows { session with console := done }
    obtain ⟨records, few, emitted⟩ := exists_records_watchSound { session with console := done }
    refine .completed done ran machine ?_ records few ?_
    · rw [shown, machine]
      exact decide_eq_true_iff
    · rw [← silent.sounds]
      exact emitted

/-- A session whose host is up to anything between its ticks. -/
inductive Driven (start : Session) : Session → Prop where
  /-- The session was just begun. -/
  | begun : Driven start start
  /-- A tick was completed or failed. -/
  | ticked {session : Session} (before : Driven start session) (times : Nat → Nat)
      (ticksBefore : Nat) : Driven start (session.tick times ticksBefore).state
  /-- The host used the console. -/
  | used {session : Session} (before : Driven start session) (use : Use session.console) :
    Driven start { session with console := use.outcome.state }
  /-- The host put anything in the place of the console, with the same journal. -/
  | replaced {session : Session} (before : Driven start session) (console : Console)
      (journal : console.journal = session.console.journal) :
    Driven start { session with console }

/-- What links a session to the records of the tone made since its journal was that of the start. -/
structure Tells (start : Journal) (session : Session) (emitted : List Bool) : Prop where
  level : session.console.journal.level = start.level
  sounds : session.console.journal.sounds = start.sounds ++ emitted
  alternates : ∀ place < emitted.length, emitted[place]? = some (place % 2 == 0)
  shown : start.WantsSounds → (session.soundOn = true ↔ emitted.length % 2 = 1)
  unwanted : ¬ start.WantsSounds → emitted = []

variable {start : Journal} {emitted : List Bool}

/-- What makes no record of the tone changes nothing about what they say. -/
theorem Tells.of_sameSounds (tells : session.Tells start emitted) {console : Console}
    (same : session.console.journal.SameSounds console.journal) :
    Tells start { session with console } emitted where
  level := same.level.trans tells.level
  sounds := same.sounds.trans tells.sounds
  alternates := tells.alternates
  shown := tells.shown
  unwanted := tells.unwanted

/-- A journal goes on wanting what it wanted at first. -/
theorem Tells.wantsSounds_iff (tells : session.Tells start emitted) :
    session.console.journal.WantsSounds ↔ start.WantsSounds := by
  rw [Journal.WantsSounds, tells.level, Journal.WantsSounds]

/-- One more record is the opposite of the last one. -/
theorem Tells.watchSound (tells : session.Tells start emitted) :
    ∃ emitted, session.watchSound.Tells start emitted := by
  by_cases same : session.console.machine.timers.isSounding = session.soundOn
  · rw [watchSound_of_same same]
    exact ⟨emitted, tells⟩
  · rw [watchSound_of_changed (Bool.eq_not_of_ne same)]
    have level : (session.console.journal.write (.sound !session.soundOn)).level = start.level :=
      (Journal.level_write _ _).trans tells.level
    by_cases wanted : start.WantsSounds
    · have kept := Journal.sounds_write_sound (tells.wantsSounds_iff.mpr wanted) (!session.soundOn)
      have shown := tells.shown wanted
      -- The tone was on before if the number of records was odd.
      have next : (!session.soundOn) = (emitted.length % 2 == 0) := by
        rw [Bool.eq_iff_iff, Bool.not_eq_true', ← Bool.not_eq_true, shown, beq_iff_eq]
        omega
      refine ⟨emitted ++ [!session.soundOn], level, ?_, fun place inside => ?_, fun _ => ?_,
        fun unwanted => absurd wanted unwanted⟩
      · -- The new record comes after those that the session has made so far.
        exact kept.trans (by rw [tells.sounds, List.append_assoc])
      · rw [List.length_append, List.length_singleton] at inside
        rcases Nat.lt_succ_iff_lt_or_eq.mp inside with before | rfl
        · -- The earlier records alternate already.
          rw [List.getElem?_append_left before]
          exact tells.alternates place before
        · -- The place of the new one is the number of those before.
          rw [List.getElem?_concat_length, next]
      · -- The session has the tone down as the new record says.
        show (!session.soundOn) = true ↔ _
        rw [next, beq_iff_eq, List.length_append, List.length_singleton]
        omega
    · -- The journal drops the record, as it did all before it.
      have dropped := Journal.write_sound_of_unwanted
        (mt tells.wantsSounds_iff.mp wanted) (!session.soundOn)
      refine ⟨emitted, level, ?_, tells.alternates, fun on => absurd on wanted, tells.unwanted⟩
      exact (congrArg Journal.sounds dropped).trans tells.sounds

/-- A tick looks at the tone at most. -/
theorem Tells.tick (tells : session.Tells start emitted) (times : Nat → Nat) (ticksBefore : Nat) :
    ∃ emitted, (session.tick times ticksBefore).state.Tells start emitted := by
  have silent := session.console.sameSounds_plainSteps times session.stepsPerTick
    (ticksBefore * session.stepsPerTick)
  rw [Session.tick, Console.steps_eq_plainSteps]
  cases failed : (session.console.plainSteps times session.stepsPerTick
      (ticksBefore * session.stepsPerTick)).failure with
  -- Only a tick that is completed looks at the tone.
  | some fault => exact ⟨emitted, tells.of_sameSounds silent⟩
  | none => exact (tells.of_sameSounds silent).watchSound

/-- Whatever happens to a session that began with the tone off, its records tell. -/
theorem Driven.tells {console : Console} {stepsPerTick : Nat}
    (driven : Driven { console, stepsPerTick } session) :
    ∃ emitted, session.Tells console.journal emitted := by
  -- Each thing that happens keeps the link, and only a tick adds to the records.
  induction driven with
  | begun =>
    -- No record was made, and the tone is off.
    refine ⟨[], rfl, (List.append_nil _).symm, nofun, fun _ => ?_, fun _ => rfl⟩
    exact iff_of_false Bool.false_ne_true (by decide)
  | ticked _ times ticksBefore ih =>
    obtain ⟨emitted, tells⟩ := ih
    exact tells.tick times ticksBefore
  -- A use may write events, none of which is of the tone.
  | used _ use ih =>
    obtain ⟨emitted, tells⟩ := ih
    exact ⟨emitted, tells.of_sameSounds (Console.sameSounds_use use)⟩
  | replaced _ other journal ih =>
    obtain ⟨emitted, tells⟩ := ih
    refine ⟨emitted, tells.of_sameSounds ?_⟩
    rw [journal]
    exact .refl _

/-- The last of records that alternate is an on when their number is odd. -/
theorem Tells.getLast?_iff (tells : session.Tells start emitted) :
    emitted.getLast? = some true ↔ emitted.length % 2 = 1 := by
  rw [List.getLast?_eq_getElem?]
  by_cases none : emitted.length = 0
  · -- There is no last one.
    rw [List.eq_nil_of_length_eq_zero none]
    exact iff_of_false nofun (by decide)
  · rw [tells.alternates _ (by omega), Option.some.injEq, beq_iff_eq]
    omega

/--
The records of the tone alternate, starting with an on, and tell the truth. Whatever a host does
with a session between its ticks, the last record so far is an on exactly when the session has the
tone down as sounding. A tick that is completed has it down as it is, by one record at most; one
that fails makes no record, and it has done its steps up to the one that failed and no other.
-/
theorem sound_records_truthful (console : Console) (stepsPerTick : Nat) {session : Session}
    (driven : Driven { console, stepsPerTick } session) :
    (∃ emitted, session.console.journal.sounds = console.journal.sounds ++ emitted ∧
      (∀ place < emitted.length, emitted[place]? = some (place % 2 == 0)) ∧
      (console.journal.WantsSounds → (session.soundOn = true ↔ emitted.getLast? = some true)) ∧
      (¬ console.journal.WantsSounds → emitted = [])) ∧
    ∀ times ticksBefore,
      session.Ticked times (ticksBefore * session.stepsPerTick)
        (session.tick times ticksBefore) := by
  obtain ⟨emitted, tells⟩ := driven.tells
  refine ⟨⟨emitted, tells.sounds, tells.alternates, fun wanted => ?_, tells.unwanted⟩,
    session.ticked⟩
  rw [tells.getLast?_iff, tells.shown wanted]

/-- The host makes a halted machine sound and stops it again, with a tick after each. -/
theorem sound_records_truthful_on_off :
    let console : Console := { core := { pc := 0x0FFF }, journal := { level := .info } }
    let start : Session := { console, stepsPerTick := 1 }
    let loud := console.withMachine (console.machine.setSound 5)
    let on := ({ start with console := loud }.tick id 0).state
    let still := on.console.withMachine (on.console.machine.setSound 0)
    let off := ({ on with console := still }.tick id 1).state
    Driven start off ∧ console.journal.WantsSounds ∧ on.soundOn = true ∧
      off.console.journal.sounds = [true, false] ∧
      (off.soundOn = true ↔ [true, false].getLast? = some true) := by
  intro console start loud on still off
  have wanted : console.journal.WantsSounds := Nat.le_refl 3
  have driven : Driven start off :=
    (((Driven.begun.replaced loud rfl).ticked id 0).replaced still rfl).ticked id 1
  have sounds : off.console.journal.sounds = [true, false] := rfl
  obtain ⟨⟨emitted, same, _, last, _⟩, _⟩ := sound_records_truthful console 1 driven
  -- The records of the start were none.
  have all : emitted = [true, false] := same.symm.trans sounds
  exact ⟨driven, wanted, rfl, sounds, all ▸ last wanted⟩

end Session

end ChipEight
