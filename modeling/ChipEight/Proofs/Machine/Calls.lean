import ChipEight.Proofs.Instruction.Opcode
import ChipEight.Proofs.Machine.Reachable

/-! Calls nest: a return leads behind its own call, whatever the program does in between. -/

namespace ChipEight

namespace CallStack

variable {stack other : CallStack} {address : UInt16}

/-- There are as many return addresses as calls. -/
theorem length_oldestFirst (stack : CallStack) : stack.oldestFirst.length = stack.depth :=
  List.length_reverse

/-- Two stacks of one depth that share that many calls are the same. -/
theorem eq_of_take_oldestFirst (depth : stack.depth = other.depth)
    (shared : stack.oldestFirst.take other.depth = other.oldestFirst.take other.depth) :
    stack = other := by
  -- None of the calls are left out on either side.
  rw [List.take_of_length_le (Nat.le_of_eq other.length_oldestFirst),
    List.take_of_length_le (Nat.le_of_eq (stack.length_oldestFirst.trans depth))] at shared
  exact congrArg CallStack.mk (List.reverse_inj.mp shared)

/-- A call leaves those before it as they are. -/
theorem take_oldestFirst_push {kept : Nat} (below : kept ≤ stack.depth) :
    (stack.push address).oldestFirst.take kept = stack.oldestFirst.take kept := by
  -- The latest call is the last in the order of calls.
  have last : (stack.push address).oldestFirst = stack.oldestFirst ++ [address] :=
    List.reverse_cons
  rw [last, List.take_append_of_le_length]
  rw [length_oldestFirst]
  exact below

end CallStack

namespace Machine

open Nibbles Instruction

/-- What a step can do to the calls under way, and where the program goes on when it ends one. -/
inductive Calling (machine : Machine) : CallStack → UInt16 → Prop where
  /-- No call is made, and none ends. -/
  | within (pc : UInt16) : Calling machine machine.stack pc
  /-- A call is made that is to come back behind itself. -/
  | call (pc : UInt16) : Calling machine (machine.stack.push (machine.pc + 2)) pc
  /-- The latest call ends where it was to come back. -/
  | ret {address : UInt16} {rest : CallStack} (latest : machine.stack = rest.push address) :
    Calling machine rest address

/-- A step makes a call, ends one or leaves them all alone. -/
theorem calling_of_step (machine : Machine) (offered : Offer) (now : Nat) :
    machine.Calling (machine.step offered now).state.stack
      (machine.step offered now).state.pc := by
  have outcome := machine.stepped offered now
  generalize machine.step offered now = result at outcome ⊢
  cases outcome with
  -- A machine that is at its end stays there.
  | halted => exact .within _
  -- A word that fails neither calls nor returns.
  | failed => exact .within _
  | @done effect running done =>
    rw [attempt] at done
    generalize decode machine.nextWord = instruction at done
    cases instruction with
    -- The table of effects knows of two instructions that touch the stack.
    | ret =>
      obtain ⟨address, rest, called, rfl⟩ := effect_ret_eq_ok done
      exact .ret (congrArg CallStack.mk called)
    | call target =>
      cases done
      exact .call _
    | _ =>
      have kept : effect.machine.stack = machine.stack := (effect_keeps done).2.2.2.2 rfl
      show machine.Calling effect.machine.stack _
      rw [kept]
      exact .within _

/-- A word of family 2 makes a call and goes to its address. -/
theorem step_of_call {machine : Machine} (running : machine.halted = false) {x y n : Fin 16}
    (word : machine.nextWord = toWord ⟨0x2, x, y, n⟩) (offered : Offer) (now : Nat) :
    (machine.step offered now).state =
      { machine.noted with
        stack := machine.stack.push (machine.pc + 2)
        pc := address ⟨0x2, x, y, n⟩
        timers := machine.timers.update now } := by
  -- The word behind which the call comes back is the one after it.
  have done : machine.attempt offered = .ok
      { machine := { machine.underway with stack := machine.stack.push (machine.pc + 2) }
        flow := .jump (address ⟨0x2, x, y, n⟩) } := by
    rw [attempt, word, (Opcode.call x y n).decode_eq]
    rfl
  rw [step_of_ok running done]
  rfl

/-- A return does not fail as long as a call is under way. -/
theorem attempt_of_return {machine : Machine} (word : machine.nextWord = 0x00EE) {address : UInt16}
    {rest : CallStack} (latest : machine.stack = rest.push address) (offered : Offer) :
    machine.attempt offered =
      .ok { machine := { machine.underway with stack := rest }, flow := .jump address } := by
  -- The record of the word is not kept on the stack.
  have called : machine.underway.stack.frames = address :: rest.frames :=
    congrArg CallStack.frames latest
  rw [attempt, word, Opcode.ret.decode_eq, effect_ret, called]

/-- A return ends the latest call and goes to where it was to come back. -/
theorem step_of_return {machine : Machine} (running : machine.halted = false)
    (word : machine.nextWord = 0x00EE) {address : UInt16} {rest : CallStack}
    (latest : machine.stack = rest.push address) (offered : Offer) (now : Nat) :
    (machine.step offered now).state =
      { machine.noted with stack := rest, pc := address, timers := machine.timers.update now } := by
  rw [step_of_ok running (attempt_of_return word latest offered)]
  rfl

/--
A machine that can come after another: a step was taken, whether or not it failed, and then the host
did what it liked to everything but the calls under way and the program counter.
-/
def FollowedBy (machine next : Machine) : Prop :=
  ∃ offered now, next.stack = (machine.step offered now).state.stack ∧
    next.pc = (machine.step offered now).state.pc

/-- Machines each of which can come after the one before. -/
def Succession (machines : Nat → Machine) (count : Nat) : Prop :=
  ∀ i < count, (machines i).FollowedBy (machines (i + 1))

/-- The machines of a program that the host leaves alone, one for each number of steps. -/
def unattended (machine : Machine) (offers : Nat → Offer) (times : Nat → Nat) :
    Nat → Machine
  | 0 => machine
  | count + 1 => ((machine.unattended offers times count).step (offers count) (times count)).state

/-- A program that is left alone goes on from each machine to the next. -/
theorem succession_unattended (machine : Machine) (offers : Nat → Offer)
    (times : Nat → Nat) (count : Nat) : Succession (machine.unattended offers times) count :=
  fun i _ => ⟨offers i, times i, rfl, rfl⟩

variable {machine next : Machine} {machines : Nat → Machine} {count : Nat}

/-- What the host does after a step cannot be told from the calls. -/
theorem FollowedBy.calling (follows : machine.FollowedBy next) :
    machine.Calling next.stack next.pc := by
  -- All but the stack and the program counter may be other than the step left them.
  obtain ⟨offered, now, stack, pc⟩ := follows
  rw [stack, pc]
  exact machine.calling_of_step offered now

/-- A step makes or ends one call at most. -/
theorem FollowedBy.depth_le (follows : machine.FollowedBy next) :
    next.stack.depth ≤ machine.stack.depth + 1 ∧ machine.stack.depth ≤ next.stack.depth + 1 := by
  have calling := follows.calling
  generalize next.stack = stack, next.pc = pc at calling ⊢
  -- Each of the three is one call more, one less or as many.
  cases calling with
  | within => omega
  | call => exact ⟨Nat.le_refl _, Nat.le_add_right_of_le (Nat.le_succ _)⟩
  | ret latest =>
    rw [latest]
    exact ⟨Nat.le_add_right_of_le (Nat.le_succ _), Nat.le_refl _⟩

/-- The calls below the depth before a step and the depth after it are the same. -/
theorem FollowedBy.take_oldestFirst (follows : machine.FollowedBy next) {kept : Nat}
    (before : kept ≤ machine.stack.depth) (after : kept ≤ next.stack.depth) :
    next.stack.oldestFirst.take kept = machine.stack.oldestFirst.take kept := by
  have calling := follows.calling
  generalize next.stack = stack, next.pc = pc at calling after ⊢
  cases calling with
  -- The stacks may differ in their latest call alone.
  | within => rfl
  | call => exact CallStack.take_oldestFirst_push before
  | ret latest =>
    -- The return undoes a call, and a call keeps what is below it.
    rw [latest]
    exact (CallStack.take_oldestFirst_push after).symm

/-- The calls that a run never gets below are the same at its end as at its start. -/
theorem Succession.take_oldestFirst (run : Succession machines count) {start stop kept : Nat}
    (ordered : start ≤ stop) (inside : stop ≤ count)
    (deep : ∀ i, start ≤ i → i ≤ stop → kept ≤ (machines i).stack.depth) :
    (machines stop).stack.oldestFirst.take kept =
      (machines start).stack.oldestFirst.take kept := by
  -- The run is followed step by step from its start.
  induction ordered with
  | refl => rfl
  | @step stop ordered ih =>
    have earlier := ih (Nat.le_of_succ_le inside) fun i onward upto =>
      deep i onward (Nat.le_succ_of_le upto)
    have before := deep stop ordered (Nat.le_succ stop)
    have after := deep (stop + 1) (Nat.le_succ_of_le ordered) (Nat.le_refl _)
    exact ((run stop inside).take_oldestFirst before after).trans earlier

/-- A step that ends a call leads to where that call was to come back. -/
theorem FollowedBy.return_of_depth_lt (follows : machine.FollowedBy next)
    (ended : next.stack.depth < machine.stack.depth) :
    machine.stack = next.stack.push next.pc := by
  have calling := follows.calling
  generalize next.stack = stack, next.pc = pc at calling ended ⊢
  -- Only one of the three makes the stack any shorter.
  cases calling with
  | within => exact absurd ended (Nat.lt_irrefl _)
  | call => exact absurd ended (Nat.not_lt_of_le (Nat.le_succ _))
  | ret latest => exact latest

/-- A run that makes a call first and is back from it for the first time is behind the call. -/
theorem Succession.returned (run : Succession machines count) (running : (machines 0).pc ≤ 0x0FFE)
    {x y n : Fin 16} (word : (machines 0).nextWord = toWord ⟨0x2, x, y, n⟩) (more : 2 ≤ count)
    (deeper : ∀ i, 0 < i → i < count → (machines 0).stack.depth + 1 ≤ (machines i).stack.depth)
    (back : (machines count).stack.depth = (machines 0).stack.depth) :
    (machines count).pc = (machines 0).pc + 2 ∧
      (machines count).stack = (machines 0).stack := by
  obtain ⟨last, rfl⟩ := Nat.exists_eq_add_of_le' (Nat.le_of_succ_le more)
  -- The first step makes the call.
  have called : (machines 1).stack = (machines 0).stack.push ((machines 0).pc + 2) := by
    obtain ⟨offered, now, stack, _⟩ := run 0 (by omega)
    rw [stack, step_of_call (halted_eq_false_iff.mpr running) word]
  -- The last step ends the call that was the latest before it.
  have ending := run last (Nat.lt_succ_self last)
  have deep := deeper last (by omega) (Nat.lt_succ_self last)
  have returned := ending.return_of_depth_lt (by omega)
  -- One call less than the last step ends is none but the first.
  have depth : (machines last).stack.depth = (machines 0).stack.depth + 1 := by
    rw [returned, CallStack.depth, ← back]
    rfl
  have same : (machines last).stack = (machines 1).stack := by
    have first : (machines 1).stack.depth = (machines 0).stack.depth + 1 := by rw [called]; rfl
    apply CallStack.eq_of_take_oldestFirst (depth.trans first.symm)
    apply run.take_oldestFirst (by omega) (Nat.le_succ last)
    intro i onward upto
    rw [first]
    exact deeper i onward (Nat.lt_succ_of_le upto)
  rw [returned, called] at same
  -- The two stacks have the same latest call and the same calls below it.
  have frames := congrArg CallStack.frames same
  obtain ⟨pc, rest⟩ := List.cons.inj frames
  exact ⟨pc, congrArg CallStack.mk rest⟩

/--
Calls nest in every run. One that makes a call first and comes back to the depth that it started at
is then behind the call, with the calls under way that it started with. The calls that a run never
gets below are the same throughout, and no step makes or ends more than one.
-/
theorem calls_nest {machines : Nat → Machine} {count : Nat} (run : Succession machines count) :
    (∀ x y n, (machines 0).pc ≤ 0x0FFE → (machines 0).nextWord = toWord ⟨0x2, x, y, n⟩ →
      2 ≤ count →
      (∀ i, 0 < i → i < count →
        (machines 0).stack.depth + 1 ≤ (machines i).stack.depth) →
      (machines count).stack.depth = (machines 0).stack.depth →
      (machines count).pc = (machines 0).pc + 2 ∧
        (machines count).stack = (machines 0).stack) ∧
    (∀ start stop kept, start ≤ stop → stop ≤ count →
      (∀ i, start ≤ i → i ≤ stop → kept ≤ (machines i).stack.depth) →
      (machines stop).stack.oldestFirst.take kept =
        (machines start).stack.oldestFirst.take kept) ∧
    ∀ i < count, (machines (i + 1)).stack.depth ≤ (machines i).stack.depth + 1 ∧
      (machines i).stack.depth ≤ (machines (i + 1)).stack.depth + 1 := by
  refine ⟨?_, ?_, fun i inside => (run i inside).depth_le⟩
  · -- A call and its return are followed as a whole, and what lies below them step by step.
    intro x y n running word more deeper back
    exact run.returned running word more deeper back
  · intro start stop kept ordered inside deep
    exact run.take_oldestFirst ordered inside deep

/-- A program that calls the instruction after its call, which calls a return, is behind both. -/
theorem calls_nest_twice :
    let machine : Machine := booted 0 (.ofList [0x22, 0x02, 0x22, 0x04, 0x00, 0xEE]) .released
    let machines := machine.unattended (fun _ => .ok 0) fun i => 20000000 * i
    Succession machines 4 ∧
      (machines 0).nextWord = toWord ⟨0x2, 0x2, 0x0, 0x2⟩ ∧
      (machines 2).stack.oldestFirst = [0x202, 0x204] ∧
      (machines 4).pc = 0x202 ∧ (machines 4).stack = {} := by
  intro machine machines
  have run : Succession machines 4 := machine.succession_unattended _ _ 4
  have word : ∀ offset, programStart + offset + 1 < memorySize →
      machine.memory.wordAt (programStart + offset) = _ :=
    wordAt_booted 0 _ _
  have zero : (machines 0).nextWord = toWord ⟨0x2, 0x2, 0x0, 0x2⟩ := by
    show machine.memory.wordAt (programStart + 0) = _
    rw [word 0 (by decide)]
    decide
  -- Neither a call nor a return changes memory, so each word is one of the program.
  have next : ∀ i, machines (i + 1) = ((machines i).step (.ok 0) (20000000 * i)).state :=
    fun _ => rfl
  have one : machines 1 = _ := (next 0).trans (step_of_call rfl zero _ _)
  have calls : (machines 1).nextWord = toWord ⟨0x2, 0x2, 0x0, 0x4⟩ := by
    rw [one]
    show machine.memory.wordAt (programStart + 2) = _
    rw [word 2 (by decide)]
    decide
  have two : machines 2 = _ := (next 1).trans (step_of_call (by rw [one]; rfl) calls _ _)
  have returns : (machines 2).nextWord = 0x00EE := by
    rw [two, one]
    show machine.memory.wordAt (programStart + 4) = _
    rw [word 4 (by decide)]
    decide
  have three : machines 3 = _ :=
    (next 2).trans (step_of_return (by rw [two]; rfl) returns (by rw [two]) _ _)
  have again : (machines 3).nextWord = 0x00EE := by
    rw [three, two, one]
    show machine.memory.wordAt (programStart + 4) = _
    rw [word 4 (by decide)]
    decide
  have four : machines 4 = _ :=
    (next 3).trans (step_of_return (by rw [three, one]; rfl) again (by rw [three, one]) _ _)
  have deeper : ∀ i, 0 < i → i < 4 →
      (machines 0).stack.depth + 1 ≤ (machines i).stack.depth := by
    intro i positive inside
    match i with
    | 1 => rw [one]; decide
    | 2 => rw [two, one]; decide
    | 3 => rw [three, one]; decide
  have returned : (machines 4).stack.depth = (machines 0).stack.depth := by rw [four]
  obtain ⟨back, _, _⟩ := calls_nest run
  obtain ⟨pc, stack⟩ := back 0x2 0x0 0x2 (by decide) zero (by decide) deeper returned
  refine ⟨run, zero, ?_, ?_, ?_⟩
  · rw [two, one]
    rfl
  · rw [pc]
    rfl
  · rw [stack]
    rfl

end Machine

end ChipEight
