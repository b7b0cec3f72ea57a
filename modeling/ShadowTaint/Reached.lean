/-!
# Results that keep the state they reached

An operation that consists of several parts may be stopped between two of them.
What was done before stays done, so such an operation answers with the state it
reached beside its result, whether that is a value or the cause of the stop.
-/

namespace ShadowTaint

/-- The state an operation reached, and its value unless it was stopped. -/
structure Reached (Cause State Value : Type) where
  state : State
  result : Except Cause Value

namespace Reached

variable {Cause State Value Other : Type}

/-- The operation ran to its end. -/
def done (state : State) (value : Value) : Reached Cause State Value := ⟨state, .ok value⟩

/-- The operation was stopped. -/
def stopped (state : State) (cause : Cause) : Reached Cause State Value :=
  ⟨state, .error cause⟩

/-- Continue with the value, unless the operation was stopped. -/
def andThen (reached : Reached Cause State Value)
    (next : State -> Value -> Reached Cause State Other) : Reached Cause State Other :=
  match reached with
  | ⟨state, .ok value⟩ => next state value
  | ⟨state, .error cause⟩ => stopped state cause

/-- What stopped the operation, if anything did. -/
def cause? (reached : Reached Cause State Value) : Option Cause :=
  match reached.result with
  | .ok _ => none
  | .error cause => some cause

/-- Change the state that was reached, whatever the result. -/
def mapState (change : State -> Other) (reached : Reached Cause State Value) :
    Reached Cause Other Value :=
  ⟨change reached.state, reached.result⟩

/-- The state after an operation that ran to its end. -/
def final (reached : Reached Cause State Unit) : Except Cause State :=
  match reached with
  | ⟨state, .ok ()⟩ => .ok state
  | ⟨_, .error cause⟩ => .error cause

@[simp] theorem andThen_done (state : State) (value : Value)
    (next : State -> Value -> Reached Cause State Other) :
    (done state value).andThen next = next state value := rfl

@[simp] theorem andThen_stopped (state : State) (cause : Cause)
    (next : State -> Value -> Reached Cause State Other) :
    (stopped state cause : Reached Cause State Value).andThen next = stopped state cause :=
  rfl

/-- An operation with a value ran to its end. -/
theorem eq_done
    {reached : Reached Cause State Value}
    {value : Value}
    (ended : reached.result = .ok value) :
    reached = done reached.state value := by
  obtain ⟨state, result⟩ := reached
  cases ended
  rfl

/-- A continued operation ran to its end if both of its parts did. -/
theorem andThen_eq_done_iff
    {reached : Reached Cause State Value}
    {next : State -> Value -> Reached Cause State Other}
    {state : State}
    {value : Other} :
    reached.andThen next = done state value ↔
      ∃ middle first, reached = done middle first ∧ next middle first = done state value := by
  constructor
  · intro ran
    obtain ⟨middle, result⟩ := reached
    cases result with
    | ok first => exact ⟨middle, first, rfl, ran⟩
    | error cause => cases ran
  · rintro ⟨middle, first, rfl, ran⟩
    exact ran

theorem mapState_eq_done_iff
    {change : State -> Other}
    {reached : Reached Cause State Value}
    {state : Other}
    {value : Value} :
    reached.mapState change = done state value ↔
      ∃ middle, reached = done middle value ∧ change middle = state := by
  constructor
  · intro ran
    obtain ⟨middle, result⟩ := reached
    cases ran
    exact ⟨middle, rfl, rfl⟩
  · rintro ⟨middle, rfl, rfl⟩
    rfl

@[simp] theorem final_done (state : State) :
    (done state () : Reached Cause State Unit).final = .ok state := rfl

@[simp] theorem final_stopped (state : State) (cause : Cause) :
    (stopped state cause : Reached Cause State Unit).final = .error cause := rfl

@[simp] theorem cause?_done (state : State) (value : Value) :
    (done state value : Reached Cause State Value).cause? = none := rfl

@[simp] theorem cause?_stopped (state : State) (cause : Cause) :
    (stopped state cause : Reached Cause State Value).cause? = some cause := rfl

end Reached
end ShadowTaint
