/-! Activities that leave a state behind whether or not they were cut short. -/

namespace ChipEight

/-- The state after an activity, with the cause if it was cut short. -/
structure Outcome (ε σ : Type) where
  /-- The state that the activity left. -/
  state : σ
  /-- Why the activity was cut short, `none` when it was completed. -/
  failure : Option ε := none

/-- What is told of an activity by one who only asks for the state if it was completed. -/
def Outcome.result {ε σ : Type} (outcome : Outcome ε σ) : Except ε σ :=
  match outcome.failure with
  | none => .ok outcome.state
  | some cause => .error cause

/-- What was done to a part of a state, told of the whole that has the part in it. -/
def Outcome.map {ε σ τ : Type} (outcome : Outcome ε σ) (whole : σ → τ) : Outcome ε τ :=
  { state := whole outcome.state, failure := outcome.failure }

/--
An activity that comes to a value. One that is cut short leaves the state as far as it got, and what
it did before that is not undone.
-/
abbrev Activity (ε σ α : Type) : Type := EStateM ε σ α

namespace Activity

variable {ε σ α : Type}

/-- A look at the state, which changes nothing but can be refused. -/
def look (view : σ → Except ε α) : Activity ε σ α := fun state =>
  match view state with
  | .ok value => .ok value state
  | .error cause => .error cause state

/-- An operation of which nothing is wanted but the state that it leaves. -/
def perform (operation : σ → Outcome ε σ) : Activity ε σ Unit := fun before =>
  let outcome := operation before
  match outcome.failure with
  | none => .ok () outcome.state
  | some cause => .error cause outcome.state

end Activity

end ChipEight
