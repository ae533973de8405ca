import ChipEight.Fault
import ChipEight.Outcome

/-! Activities that can fail, taken apart: when one made of others succeeds, and when it fails. -/

namespace ChipEight

variable {ε ε' α β : Type} {attempt : Except ε α}

/-- An activity with another one after it succeeds when both do. -/
theorem bind_eq_ok_iff {next : α → Except ε β} {result : β} :
    (attempt >>= next) = .ok result ↔
      ∃ value, attempt = .ok value ∧ next value = .ok result := by
  -- Only a first part that succeeds hands anything on to the second.
  cases attempt with
  | error cause => simp [Bind.bind, Except.bind]
  | ok value => simp [Bind.bind, Except.bind]

/-- What follows a reworked result could as well rework it first. -/
theorem map_bind {after : α → β} {γ : Type} {next : β → Except ε γ} :
    attempt.map after >>= next = attempt >>= fun value => next (after value) := by
  cases attempt <;> rfl

section Checks

variable {condition : Prop} [Decidable condition] {fault cause : ε}

/-- What is done on a condition succeeds when it is met. -/
theorem check_eq_ok_iff {value result : α} :
    (if condition then .ok value else .error fault : Except ε α) = .ok result ↔
      condition ∧ result = value := by
  -- One branch brings the value, the other one the fault.
  by_cases met : condition
  · simp [met, eq_comm]
  · simp [met]

/-- What is done on a condition fails when it is not met. -/
theorem check_eq_error_iff {value : α} :
    (if condition then .ok value else .error fault : Except ε α) = .error cause ↔
      ¬ condition ∧ cause = fault := by
  by_cases met : condition
  · simp [met]
  · simp [met, eq_comm]

/-- The same of what cannot even be said without the condition. -/
theorem dependent_check_eq_error_iff {value : condition → α} :
    (if met : condition then .ok (value met) else .error fault : Except ε α) = .error cause ↔
      ¬ condition ∧ cause = fault := by
  -- The value is there in the first branch alone, and that one does not fail.
  by_cases met : condition
  · simp [met]
  · simp [met, eq_comm]

end Checks

/-- An activity that fails on one condition, and for one cause, succeeds otherwise. -/
theorem exists_ok_iff {refused : Prop} {fault : ε}
    (failed : ∀ cause, attempt = .error cause ↔ refused ∧ cause = fault) :
    (∃ value, attempt = .ok value) ↔ ¬ refused := by
  -- An activity ends in one of two ways, and the condition tells which.
  cases attempt with
  | error cause => exact iff_of_false nofun (not_not_intro ((failed cause).mp rfl).1)
  | ok value =>
    refine iff_of_true ⟨value, rfl⟩ ?_
    intro condition
    cases (failed fault).mpr ⟨condition, rfl⟩

/-- A result that is only reworked is one when there was one before. -/
theorem map_eq_ok_iff {after : α → β} {result : β} :
    attempt.map after = .ok result ↔ ∃ value, attempt = .ok value ∧ after value = result := by
  cases attempt with
  | error cause => simp [Except.map]
  | ok value => simp [Except.map]

/-- Reworking a result neither hides a failure nor adds one. -/
theorem map_eq_error_iff {after : α → β} {fault : ε} :
    attempt.map after = .error fault ↔ attempt = .error fault := by
  cases attempt with
  | error cause => simp [Except.map]
  | ok value => simp [Except.map]

/-- Rewording a failure leaves every success as it was. -/
theorem mapError_eq_ok_iff {wording : ε → ε'} {result : α} :
    attempt.mapError wording = .ok result ↔ attempt = .ok result := by
  cases attempt with
  -- A failure is a failure in whatever words.
  | error cause => exact ⟨nofun, nofun⟩
  | ok value =>
    constructor
    · intro same
      cases same
      rfl
    · intro same
      cases same
      rfl

/-- A result that is a state is the one that was left. -/
theorem Outcome.state_of_result {σ : Type} {outcome : Outcome ε σ} {state : σ}
    (done : outcome.result = .ok state) : outcome.state = state := by
  unfold result at done
  -- There is no result where something was cut short.
  split at done
  · exact Except.ok.inj done
  · cases done

namespace Activity

variable {σ : Type}

/-- An activity that only comes to a value leaves the state as it is. -/
@[simp] theorem pure_apply (value : α) (state : σ) :
    (pure value : Activity ε σ α) state = .ok value state := rfl

/-- What comes next starts from the value and the state of what came first, unless that failed. -/
@[simp] theorem bind_apply (activity : Activity ε σ α) (next : α → Activity ε σ β) (state : σ) :
    (activity >>= next) state =
      match activity state with
      | .ok value after => next value after
      | .error cause after => .error cause after := by
  -- The state that a failure left is handed on as it is.
  show EStateM.bind activity next state = _
  rw [EStateM.bind]
  cases activity state <;> rfl

/-- The state can be asked for. -/
@[simp] theorem get_apply (state : σ) : (get : Activity ε σ σ) state = .ok state state := rfl

/-- The state can be changed. -/
@[simp] theorem modify_apply (change : σ → σ) (state : σ) :
    (modify change : Activity ε σ Unit) state = .ok () (change state) := rfl

/-- A look brings what it sees, and is refused without a change. -/
theorem look_apply (view : σ → Except ε α) (state : σ) :
    (look view : Activity ε σ α) state =
      match view state with
      | .ok value => .ok value state
      | .error cause => .error cause state := rfl

end Activity

end ChipEight
