import ChipEight.Timers.Binary32

/-! The two timers, which count down sixty times a second of the host's time. -/

namespace ChipEight

/-- The nanoseconds in a second. -/
def nanosPerSecond : Nat := 1000000000

/-- A span of nanoseconds in seconds: whole seconds plus the fraction, each rounded on its own. -/
def seconds (nanos : Nat) : Binary32 :=
  Binary32.add (Binary32.ofNat (nanos / nanosPerSecond))
    (Binary32.div (Binary32.ofNat (nanos % nanosPerSecond)) (Binary32.ofNat nanosPerSecond))

/-- The seconds from one count to the next. -/
def timerPeriod : Binary32 := Binary32.div (Binary32.ofNat 1) (Binary32.ofNat 60)

/-- The timers and the moment, in nanoseconds, of their last count. -/
structure Timers where
  /-- The timer that programs can read. -/
  delay : UInt8 := 0
  /-- The timer that makes the tone sound while it is above zero. -/
  sound : UInt8 := 0
  /-- The moment of the last count, or of the start when there was none. -/
  lastCount : Nat := 0
deriving DecidableEq, Repr, Inhabited

/-- A timer after one count, which stops at zero. -/
def countDown (timer : UInt8) : UInt8 := if timer = 0 then 0 else timer - 1

namespace Timers

/-- Whether a whole period has passed at a moment; a moment before the last count is no time. -/
def isDue (timers : Timers) (now : Nat) : Bool :=
  -- Moments are natural numbers, so time that goes back comes to none.
  timerPeriod.atMost (seconds (now - timers.lastCount))

/-- The timers at a moment: one count down if it is due, however many periods have passed. -/
def update (timers : Timers) (now : Nat) : Timers :=
  -- The next period starts now, so what was left over of this one is lost.
  if timers.isDue now then ⟨countDown timers.delay, countDown timers.sound, now⟩ else timers

/-- Both timers at zero, with a period that starts at a moment. -/
def restart (now : Nat) : Timers := { lastCount := now }

/-- The timers with a value in the one that programs can read. -/
def setDelay (timers : Timers) (value : UInt8) : Timers := { timers with delay := value }

/-- The timers with a value in the one that makes the tone sound. -/
def setSound (timers : Timers) (value : UInt8) : Timers := { timers with sound := value }

/-- Whether the tone sounds. -/
def isSounding (timers : Timers) : Bool := 0 < timers.sound

end Timers

end ChipEight
