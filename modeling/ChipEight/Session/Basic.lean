import ChipEight.Console

/-! A console driven by its host: a fixed number of steps to each tick, with a watch on the tone. -/

namespace ChipEight

/-- A failed step, by the address of its instruction. -/
structure StepFault where
  /-- The address of the instruction. -/
  address : UInt16
  /-- What went wrong. -/
  fault : Fault
deriving DecidableEq, Repr

/-- The wording of a failed step. -/
def StepFault.message (failed : StepFault) : String :=
  "Instruction at " ++ Hexadecimal.marked 3 failed.address.toNat ++ " failed: " ++
    failed.fault.report

/--
So many steps, up to the first that fails. They are numbered on from those done before them, and
`times` gives the moment of each by its number.
-/
def Console.steps (console : Console) (times : Nat → Nat) :
    (count done : Nat) → Outcome StepFault Console
  | 0, _ => { state := console }
  | count + 1, done =>
    -- A machine that has halted stays as it is, so nothing is left to do.
    if console.machine.halted then { state := console }
    else
      let outcome := console.step (times done)
      match outcome.failure with
      | some fault =>
        { state := outcome.state
          failure := some { address := outcome.state.machine.pc, fault } }
      | none => outcome.state.steps times count (done + 1)

/-- A console and what its host keeps about it between ticks. -/
structure Session where
  /-- The console. -/
  console : Console
  /-- The number of steps in a tick. -/
  stepsPerTick : Nat
  /-- Whether the tone sounded at the end of the last tick that was completed. -/
  soundOn : Bool := false

namespace Session

/-- The session with one more event in its journal. -/
def note (session : Session) (event : Event) : Session :=
  { session with console := session.console.note event }

/-- The session after a look at the tone, with an event if it changed. -/
def watchSound (session : Session) : Session :=
  let sounding := session.console.machine.timers.isSounding
  if sounding = session.soundOn then session
  else { session.note (.sound sounding) with soundOn := sounding }

/-- The session after the steps of a tick; the tone is only looked at when none failed. -/
def afterSteps (session : Session) (outcome : Outcome StepFault Console) :
    Outcome StepFault Session :=
  let after := { session with console := outcome.state }
  match outcome.failure with
  | some fault => { state := after, failure := some fault }
  | none => { state := after.watchSound }

/--
One tick of a run, after so many ticks before it, when `times` gives the moment of every step of
the run.
-/
def tick (session : Session) (times : Nat → Nat) (ticksBefore : Nat) :
    Outcome StepFault Session :=
  session.afterSteps
    (session.console.steps times session.stepsPerTick (ticksBefore * session.stepsPerTick))

/-- Why the program gets no further, if it does not. -/
def stall? (session : Session) : Option Stall := session.console.machine.stall?

end Session

end ChipEight
