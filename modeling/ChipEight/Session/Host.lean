import ChipEight.Session.Run

/-! Runs whose host does something of its own between the steps, such as looking at a real clock. -/

namespace ChipEight

/-- What a run asks of its host. -/
structure Host (m : Type → Type) where
  /-- The moment at which a tick begins. -/
  tickBegins : m Nat
  /-- The session, with what its next step may need. -/
  provide : Session → m Session
  /-- The moment of the next step. -/
  moment : m Nat
  /-- The session at the end of a tick, after its host has seen what was reported. -/
  attend : Session → m Session
  /-- The wait until the next tick, after one that began at a moment. -/
  rest : Nat → m Unit

namespace Session

variable {m : Type → Type} [Monad m]

/-- The steps of a tick that are left, each at the moment at which its host has it done. -/
@[specialize]
def stepsOn (host : Host m) : (count : Nat) → Session → m (Outcome StepFault Session)
  | 0, session => pure (session.afterSteps { state := session.console })
  | count + 1, session => do
    let ready ← host.provide session
    let now ← host.moment
    let outcome := ready.console.steps (fun _ => now) 1 0
    let after := { ready with console := outcome.state }
    match outcome.failure with
    | some why => pure { state := after, failure := some why }
    | none => stepsOn host count after

/-- Ticks until one fails, the program stalls after one, or no more are allowed. -/
@[specialize]
def runOn (host : Host m) : (allowance ticksBefore : Nat) → Session → m Run
  | 0, ticksBefore, session =>
    pure { session, ticks := ticksBefore, ending := .allowanceSpent }
  | allowance + 1, ticksBefore, session => do
    let began ← host.tickBegins
    let outcome ← session.stepsOn host session.stepsPerTick
    match outcome.failure with
    | some why => pure { session := outcome.state, ticks := ticksBefore, ending := .failed why }
    | none =>
      let closed := outcome.state.closeTick (ticksBefore + 1)
      let session ← host.attend closed.1
      match closed.2 with
      | some why => pure { session, ticks := ticksBefore + 1, ending := .stalled why }
      | none =>
        host.rest began
        runOn host allowance (ticksBefore + 1) session

end Session

/-- The host that never waits and has the moment of each step from a script, by its number. -/
def Host.scripted (times : Nat → Nat) : Host (StateM Nat) where
  tickBegins := pure 0
  provide := pure
  moment := modifyGet fun done => (times done, done + 1)
  attend := pure
  rest _ := pure ()

end ChipEight
