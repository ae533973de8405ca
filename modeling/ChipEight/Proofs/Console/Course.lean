import ChipEight.Console.Handles
import ChipEight.Proofs.Console.Steps
import ChipEight.Proofs.Machine.Clock

/-! Steps and key events one after the other, followed on two consoles side by side. -/

namespace ChipEight

/-- What a host does to a console while its program runs. -/
inductive Deed where
  /-- A step is taken at a moment. -/
  | step (now : Nat)
  /-- A key is held or let go, whether or not through a handle. -/
  | setKey (key : Nat) (held : Bool)
  /-- Every key is let go. -/
  | releaseKeys

/-- The same deed on two consoles, up to the moments at which steps are taken. -/
inductive Deed.Matches (moments : Nat → Nat → Prop) : Deed → Deed → Prop where
  | step {now later : Nat} (together : moments now later) :
    Matches moments (.step now) (.step later)
  | setKey (key : Nat) (held : Bool) : Matches moments (.setKey key held) (.setKey key held)
  | releaseKeys : Matches moments .releaseKeys .releaseKeys

/-- Two sources whose answers to come are the same. -/
def Entropy.Same (entropy other : Entropy) : Prop :=
  ∀ ahead, entropy.answers (entropy.requests + ahead) = other.answers (other.requests + ahead)

/-- Sources whose answers to come are the same have the same next one. -/
theorem Entropy.Same.next {entropy other : Entropy} (same : entropy.Same other) :
    entropy.next = other.next := same 0

/-- The answers to come are the same after one was used up of each source. -/
theorem Entropy.Same.advance {entropy other : Entropy} (same : entropy.Same other) :
    entropy.advance.Same other.advance := by
  -- What was one ahead is next.
  intro ahead
  simp only [Entropy.advance]
  rw [Nat.add_assoc, Nat.add_assoc]
  exact same (1 + ahead)

namespace Console

/-- A deed that is done, whether or not it fails. -/
def perform (console : Console) : Deed → Outcome Fault Console
  | .step now => console.step now
  | .setKey key held => console.setKey key held
  | .releaseKeys => { state := console.releaseKeys }

/-- The console after deeds done one after the other, none of them ended by a failure before it. -/
def after (console : Console) (deeds : List Deed) : Console :=
  deeds.foldl (fun console deed => (console.perform deed).state) console

/-- How each of the deeds failed, if it did. -/
def failures (console : Console) : List Deed → List (Option Fault)
  | [] => []
  | deed :: later => (console.perform deed).failure :: (console.perform deed).state.failures later

/-- Some step among the deeds is taken from a machine of a certain kind. -/
def StepsFrom (kind : Machine → Prop) (console : Console) : List Deed → Prop
  | [] => False
  | deed :: later => (∃ now, deed = .step now) ∧ kind console.machine ∨
      (console.perform deed).state.StepsFrom kind later

/-- Two consoles whose programs have everything in common but the timers, which are linked. -/
structure Linked (link : Timers → Timers → Prop) (console other : Console) : Prop where
  agrees : console.machine.Agrees other.machine
  timers : link console.machine.timers other.machine.timers
  entropy : console.entropy.Same other.entropy

variable {link : Timers → Timers → Prop} {moments : Nat → Nat → Prop} {console other : Console}

/-- The random bytes are used up alike by machines that agree. -/
theorem Linked.prepared (linked : console.Linked link other) :
    console.prepared.entropy.Same other.prepared.entropy := by
  -- Machines that agree have the same instruction ahead of them.
  have upcoming : console.machine.upcoming? = other.machine.upcoming? := by
    rw [Machine.upcoming?, linked.agrees.halted, Machine.fetch, linked.agrees.pc,
      linked.agrees.memory]
    rfl
  unfold Console.prepared
  rw [upcoming]
  split
  · exact linked.entropy
  · -- Whether a byte is used up depends on the instruction.
    dsimp only
    split
    · exact linked.entropy.advance
    · exact linked.entropy

/-- Linked consoles stay linked when the same keypad is put on both. -/
theorem Linked.putKeypad (linked : console.Linked link other) (keypad : Keypad) :
    { console with keypads := console.keypads.put keypad }.Linked link
      { other with keypads := other.keypads.put keypad } :=
  ⟨{ linked.agrees with keypad := rfl }, linked.timers, linked.entropy⟩

/-- A key is set alike on linked consoles, or there is no such key on either. -/
theorem Linked.setKey (linked : console.Linked link other) (key : Nat) (held : Bool) :
    (console.setKey key held).failure = (other.setKey key held).failure ∧
      (console.setKey key held).state.Linked link (other.setKey key held).state := by
  -- Whether there is a key of this number is for the keypad to say.
  have keypad : console.keypads.value = other.keypads.value := linked.agrees.keypad
  simp only [Console.setKey, keypad]
  exact ⟨rfl, linked.putKeypad _⟩

/-- A step fails alike on linked consoles, and they are linked after it. -/
theorem Linked.step (linked : console.Linked link other) (lasting : Timers.Lasting link moments)
    {now later : Nat} (together : moments now later)
    (unread : console.machine.ReadsDelay →
      console.machine.timers.delay = other.machine.timers.delay) :
    (console.step now).failure = (other.step later).failure ∧
      (console.step now).state.Linked link (other.step later).state ∧
      (console.machine.halted = false ∨ console.machine.SameRecord other.machine →
        (console.step now).state.machine.SameRecord (other.step later).state.machine) := by
  -- The two steps are offered the same random byte.
  have offer : other.step later = (other.machine.step console.entropy.next later).map
      other.prepared.withMachine := by
    rw [linked.entropy.next]
    rfl
  obtain ⟨failure, agrees, record, timers⟩ :=
    linked.agrees.step unread console.entropy.next now later
  -- What the step does to the timers leaves them linked.
  have used := lasting.useAll
    (console.machine.timerUses_matches console.entropy.next together) linked.timers
  rw [← timers, ← Machine.step_timers] at used
  rw [offer]
  exact ⟨failure, ⟨agrees, used, linked.prepared⟩, record⟩

/-- Consoles stay linked when the keys of both are let go. -/
theorem Linked.releaseKeys (linked : console.Linked link other) :
    console.releaseKeys.Linked link other.releaseKeys := by
  -- The keypads were the same before.
  have keypad : console.keypads.value = other.keypads.value := linked.agrees.keypad
  rw [Console.releaseKeys, Console.releaseKeys, keypad]
  exact linked.putKeypad _

/-- A deed fails alike on linked consoles, and they are linked after it. -/
theorem Linked.perform (linked : console.Linked link other) (lasting : Timers.Lasting link moments)
    {deed deed' : Deed} (same : deed.Matches moments deed')
    (unread : (∃ now, deed = .step now) ∧ console.machine.ReadsDelay →
      console.machine.timers.delay = other.machine.timers.delay) :
    (console.perform deed).failure = (other.perform deed').failure ∧
      (console.perform deed).state.Linked link (other.perform deed').state ∧
      (console.machine.SameRecord other.machine ∨
          (∃ now, deed = .step now) ∧ console.machine.halted = false →
        (console.perform deed).state.machine.SameRecord (other.perform deed').state.machine) := by
  -- Only a step has a moment of its own, and only a step puts a word on record.
  cases same with
  | @step now later together =>
    obtain ⟨failure, linked, record⟩ :=
      linked.step lasting together fun reads => unread ⟨⟨now, rfl⟩, reads⟩
    refine ⟨failure, linked, fun known => record ?_⟩
    rcases known with same | ⟨_, running⟩
    · exact Or.inr same
    · exact Or.inl running
  | setKey key held =>
    obtain ⟨failure, linked⟩ := linked.setKey key held
    refine ⟨failure, linked, fun known => ?_⟩
    rcases known with same | ⟨⟨now, step⟩, _⟩
    · exact same
    · cases step
  -- The keys are let go on both, and the record is left alone.
  | releaseKeys =>
    refine ⟨rfl, linked.releaseKeys, fun known => ?_⟩
    show console.releaseKeys.machine.SameRecord other.releaseKeys.machine
    rw [machine_releaseKeys, machine_releaseKeys]
    rcases known with same | ⟨⟨now, step⟩, _⟩
    · exact same
    · cases step

/-- The same deeds on two consoles come out alike. -/
structure Parallel (link : Timers → Timers → Prop) (console other : Console)
    (deeds deeds' : List Deed) : Prop where
  /-- Each deed fails alike. -/
  failures : console.failures deeds = other.failures deeds'
  /-- The consoles are linked after the deeds. -/
  linked : (console.after deeds).Linked link (other.after deeds')
  /-- The same word is on record if that was so before or a word was carried out. -/
  record : console.machine.SameRecord other.machine ∨
      console.StepsFrom (fun machine => machine.halted = false) deeds →
    (console.after deeds).machine.SameRecord (other.after deeds').machine
  /-- The delay timer is read on the one console if it is on the other. -/
  reads : other.StepsFrom Machine.ReadsDelay deeds' → console.StepsFrom Machine.ReadsDelay deeds

/-- Deeds on linked consoles come out alike if the delay timers are alike or never read. -/
theorem Linked.parallel (lasting : Timers.Lasting link moments) {deeds deeds' : List Deed}
    (same : List.Forall₂ (Deed.Matches moments) deeds deeds')
    (linked : console.Linked link other)
    (unread : (∀ timers timers', link timers timers' → timers.delay = timers'.delay) ∨
      ¬ console.StepsFrom Machine.ReadsDelay deeds) :
    Parallel link console other deeds deeds' := by
  -- Both consoles move on with each pair of deeds.
  induction same generalizing console other with
  | nil =>
    refine ⟨rfl, linked, fun known => ?_, nofun⟩
    rcases known with same | ran
    · exact same
    · cases ran
  | @cons deed deed' later later' first rest ih =>
    -- Either the timers never differ in what is read, or nothing is read.
    have silent : (∃ now, deed = .step now) ∧ console.machine.ReadsDelay →
        console.machine.timers.delay = other.machine.timers.delay := by
      intro reads
      rcases unread with always | never
      · exact always _ _ linked.timers
      · exact absurd (Or.inl reads) never
    obtain ⟨failure, middle, record⟩ := linked.perform lasting first silent
    have onward := ih middle (unread.imp_right fun never reads => never (Or.inr reads))
    refine ⟨?_, onward.linked, fun known => ?_, fun reads => ?_⟩
    · rw [failures, failures, failure, onward.failures]
    · -- The record is the same from the first word on that is carried out.
      rcases known with same | ran | ran
      · exact onward.record (Or.inl (record (Or.inl same)))
      · exact onward.record (Or.inl (record (Or.inr ran)))
      · exact onward.record (Or.inr ran)
    · -- A step that reads the delay timer is found at the same place on both sides.
      rcases reads with ⟨⟨now, step⟩, reads⟩ | reads
      · subst step
        cases first
        exact Or.inl ⟨⟨_, rfl⟩, linked.agrees.readsDelay reads⟩
      · exact Or.inr (onward.reads reads)

end Console

end ChipEight
