import ChipEight.Session.Basic

/-! Runs of many ticks, which end early when the program gets no further. -/

namespace ChipEight

/-- How a run ended. -/
inductive Ending where
  /-- All ticks that were allowed have run. -/
  | allowanceSpent
  /-- The program got no further. -/
  | stalled (why : Stall)
  /-- A step failed. -/
  | failed (why : StepFault)
deriving DecidableEq, Repr

/-- The record of a run. -/
structure Run where
  /-- The session at the end. -/
  session : Session
  /-- The number of ticks that were completed. -/
  ticks : Nat
  /-- How the run ended. -/
  ending : Ending

namespace Session

/-- The session and the stall that ends its run after a number of ticks, if there is one. -/
def closeTick (session : Session) (ticks : Nat) : Session × Option Stall :=
  match session.stall? with
  | some why => (session.note (.stopping ticks why), some why)
  | none => (session, none)

/-- Ticks until one fails, the program stalls after one, or no more are allowed. -/
def runFor (times : Nat → Nat) : (allowance ticksBefore : Nat) → Session → Run
  | 0, ticksBefore, session => { session, ticks := ticksBefore, ending := .allowanceSpent }
  | allowance + 1, ticksBefore, session =>
    let outcome := session.tick times ticksBefore
    match outcome.failure with
    | some why => { session := outcome.state, ticks := ticksBefore, ending := .failed why }
    | none =>
      match outcome.state.closeTick (ticksBefore + 1) with
      | (session, some why) => { session, ticks := ticksBefore + 1, ending := .stalled why }
      | (session, none) => runFor times allowance (ticksBefore + 1) session

/--
A run of at most `ticks` ticks. Zero stands for no limit, and then the patience of the host is the
most that is allowed.
-/
def run (session : Session) (times : Nat → Nat) (ticks patience : Nat) : Run :=
  session.runFor times (if ticks = 0 then patience else ticks) 0

end Session

end ChipEight
