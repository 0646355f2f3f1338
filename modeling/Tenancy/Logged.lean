import Tenancy.Event

/-!
# Answers with the events they left

A computation that logs is a value together with its events, in order. `note` is the only way to
leave one, and sequencing concatenates; so the value never depends on what was logged, and proofs
about answers may look at `value` alone.

Computations that can fail, or that carry a state, are built on top of this; `Logging` is what they
have in common.
-/

set_option autoImplicit false

namespace Tenancy

universe u v w

/-- A value, and the events that were logged on the way to it. -/
structure Logged (α : Type u) where
  value : α
  events : List Event
  deriving Repr

namespace Logged

instance : Monad Logged where
  pure a := ⟨a, []⟩
  bind x f := ⟨(f x.value).value, x.events ++ (f x.value).events⟩

@[simp] theorem value_pure {α : Type u} (a : α) : (pure a : Logged α).value = a := rfl

@[simp] theorem events_pure {α : Type u} (a : α) : (pure a : Logged α).events = [] := rfl

@[simp] theorem value_bind {α β : Type u} (x : Logged α) (f : α → Logged β) :
    (x >>= f).value = (f x.value).value := rfl

@[simp] theorem events_bind {α β : Type u} (x : Logged α) (f : α → Logged β) :
    (x >>= f).events = x.events ++ (f x.value).events := rfl

instance : LawfulMonad Logged :=
  LawfulMonad.mk' Logged
    (fun x => by cases x; simp [Functor.map])
    (fun x f => by simp [bind, pure])
    (fun x f g => by simp [bind, List.append_assoc])

end Logged

/-- Computations that can log. -/
class Logging (m : Type u → Type v) where
  note : Event → m PUnit

export Logging (note)

instance : Logging Logged where
  note e := ⟨⟨⟩, [e]⟩

instance {m : Type u → Type v} {n : Type u → Type w} [Logging m] [MonadLift m n] : Logging n where
  note e := MonadLift.monadLift (note e : m PUnit)

end Tenancy
