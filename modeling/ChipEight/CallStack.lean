import ChipEight.Fault
import ChipEight.Outcome

/-! The return addresses of the subroutine calls under way. -/

namespace ChipEight

/-- Return addresses, the one of the latest call first. There is no limit to their number. -/
structure CallStack where
  /-- The addresses, latest first. -/
  frames : List UInt16 := []
deriving DecidableEq, Repr, Inhabited

namespace CallStack

/-- The number of calls under way. -/
def depth (stack : CallStack) : Nat := stack.frames.length

/-- The return addresses in the order of their calls. -/
def oldestFirst (stack : CallStack) : List UInt16 := stack.frames.reverse

/-- The stack with one more call. -/
def push (stack : CallStack) (address : UInt16) : CallStack := ⟨address :: stack.frames⟩

/-- Takes the return address of the latest call off the stack. -/
def pop : Activity Fault CallStack UInt16 := fun stack =>
  match stack.frames with
  -- A stack without a frame is left as it is.
  | [] => .error .stackUnderflow stack
  | address :: rest => .ok address ⟨rest⟩

end CallStack

end ChipEight
