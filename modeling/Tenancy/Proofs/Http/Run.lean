import Tenancy.Http.Extract
import Tenancy.Proofs.Gate.Inventory

/-!
# Running steps and handlers

A step takes the state of the service, leaves events and answers; a handler may end early besides.
`Step.outcome` and `Handler.outcome` run them and drop the events, which no answer depends on. One
equation for each way in which handlers are put together says what the outcome is, so a handler is
run by rewriting and its monad is never unfolded.
-/

set_option autoImplicit false

namespace Tenancy.Http

/-- What a step answers in a state, and the state it leaves. -/
def Step.outcome {α : Type} (x : Step α) (st : State) : α × State := (x.run st).value

/-- What a handler answers in a state, or the response it ends in, and the state it leaves. -/
def Handler.outcome {α : Type} (x : Handler α) (st : State) : Except Response α × State :=
  Step.outcome x.run st

/-! ## Steps -/

section Step

variable {α β : Type} (st : State)

@[simp] theorem Step.outcome_pure (a : α) : Step.outcome (pure a) st = (a, st) := rfl

theorem Step.outcome_bind (x : Step α) (f : α → Step β) :
    Step.outcome (x >>= f) st = (f (Step.outcome x st).1).outcome (Step.outcome x st).2 := rfl

@[simp] theorem Step.outcome_note (e : Event) : Step.outcome (note e) st = (⟨⟩, st) := rfl

end Step

/-! ## Handlers -/

section Handler

variable {α β : Type} (st : State)

@[simp] theorem Handler.outcome_pure (a : α) : Handler.outcome (pure a) st = (.ok a, st) := rfl

@[simp] theorem Handler.outcome_throw (response : Response) :
    Handler.outcome (throw response : Handler α) st = (.error response, st) := rfl

@[simp] theorem Handler.outcome_note (e : Event) :
    Handler.outcome (note e) st = (.ok ⟨⟩, st) := rfl

theorem Handler.outcome_lift (x : Step α) :
    Handler.outcome (liftM x) st = (.ok (x.outcome st).1, (x.outcome st).2) := rfl

/-- A handler goes on with what the one before it answered, unless that ended early. -/
theorem Handler.outcome_bind (x : Handler α) (f : α → Handler β) :
    Handler.outcome (x >>= f) st =
      match x.outcome st with
      | (.ok a, st') => (f a).outcome st'
      | (.error response, st') => (.error response, st') := by
  unfold outcome
  rw [ExceptT.run_bind, Step.outcome_bind]
  rcases Step.outcome (x.run) st with ⟨_ | a, st'⟩ <;> rfl

theorem Handler.outcome_bind_ok {x : Handler α} {st' : State} {a : α}
    (h : x.outcome st = (.ok a, st')) (f : α → Handler β) :
    Handler.outcome (x >>= f) st = (f a).outcome st' := by
  rw [Handler.outcome_bind, h]

/-- A failure ends a handler in the response to it. -/
theorem Handler.outcome_attempt (x : ExceptT Error Step α) :
    Handler.outcome (attempt x) st =
      ((Step.outcome x.run st).1.mapError Response.ofError, (Step.outcome x.run st).2) := by
  unfold attempt
  rw [Handler.outcome_bind_ok st (Handler.outcome_lift st x.run)]
  rcases Step.outcome x.run st with ⟨_ | a, st'⟩ <;> rfl

theorem Step.outcome_settle (x : Handler Response) :
    Step.outcome (settle x) st =
      (match (x.outcome st).1 with
        | .ok response => response
        | .error response => response, (x.outcome st).2) := by
  unfold settle
  rw [Step.outcome_bind]
  show Step.outcome (match (x.outcome st).1 with
    | .ok response => pure response
    | .error response => pure response) (x.outcome st).2 = _
  rcases x.outcome st with ⟨_ | response, st'⟩ <;> rfl

end Handler

end Tenancy.Http
