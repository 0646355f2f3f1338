import Tenancy.Http.Respond
import Tenancy.Proofs.Http.Run

/-!
# What handlers find on a request

Between a request and its handler stand the bound on the body and the resolution of the tenant.
Whoever answers sees the request with a context on it, and acts for the scope of that context;
`resolved` and `scopeOf` say which these are, as plain values, and `outcome_layers` that they are
what the layers leave. A request that declares too long a body gets no further than the first layer,
whatever it asks for.
-/

set_option autoImplicit false

namespace Tenancy.Http

/-- Whether a request declares a body that is refused at once. -/
def tooLong (r : Request) : Bool := (declaredLength? r).any fun n => bodyLimit < n

def readableOf (r : Request) : Nat := ((declaredLength? r).map (min bodyLimit)).getD bodyLimit

def lengthRefusal : Response := .text 413 "length limit exceeded"

namespace Service

variable (s : Service) (now : Instant) (st : State) (r : Request)

/-- The context that is on a request behind the layers, and the state in which it is handled: a
context that was there already stays, and otherwise the tenant is resolved. -/
def resolved : Context × State :=
  match r.context with
  | some c => (c, st)
  | none => Step.outcome
    (onMemo (Resolution.resolve s.settings now (r.signals s.settings) r.principal)) st

def prepared : Request :=
  { r with readable := readableOf r, context := some (s.resolved now st r).1 }

/-- On whose behalf a request acts. -/
def scopeOf : Scope :=
  ((Scope.of (s.resolved now st r).1 r.principal).impersonating
    (r.header? s.settings.impersonationHeader)).withStrict s.settings.strict

/-- The tenant a request acts for: that of its context, or, if that has none and the caller is an
administrator, the one its impersonation header asks for. -/
def effectiveTenant : Option TenantId :=
  (s.resolved now st r).1.tenant <|>
    if r.principal.any Principal.isAdmin then
      Scope.requestedTenant? (r.header? s.settings.impersonationHeader)
    else none

/-- The answer to a request in a state. -/
def answer : Response := (Step.outcome (s.respond now r) st).1

@[simp] theorem scopeOf_tenant : (s.scopeOf now st r).tenant = s.effectiveTenant now st r := rfl

@[simp] theorem scopeOf_isAdmin :
    (s.scopeOf now st r).isAdmin = r.principal.any Principal.isAdmin := rfl

@[simp] theorem scopeOf_strict : (s.scopeOf now st r).strict = s.settings.strict := rfl

/-- A request is handled with the context it was resolved to, or with the one it came with. -/
theorem outcome_resolveTenant (inner : Request → Step Response) (readable : Nat) :
    Step.outcome (resolveTenant s.settings
      (fun signals principal => onMemo (Resolution.resolve s.settings now signals principal))
      inner { r with readable }) st =
        (inner { r with readable, context := some (s.resolved now st r).1 }).outcome
          (s.resolved now st r).2 := by
  -- a context that is there already is put back where it was
  obtain ⟨method, target, headers, body, principal, _ | c, n⟩ := r
  · rfl
  · rfl

/-- The layers answer a request that is too long themselves and hand on every other. -/
theorem outcome_layers (inner : Request → Step Response) :
    Step.outcome (s.layers now inner r) st =
      if tooLong r then (lengthRefusal, st)
      else (inner (s.prepared now st r)).outcome (s.resolved now st r).2 := by
  unfold layers limitBody tooLong prepared readableOf
  cases declaredLength? r with
  | none => exact s.outcome_resolveTenant now st r inner bodyLimit
  | some n =>
    by_cases hn : bodyLimit < n
    · simp only [hn, if_true, Option.any_some, decide_true]
      rfl
    · simp only [hn, if_false, Option.any_some, decide_false, Bool.false_eq_true]
      exact s.outcome_resolveTenant now st r inner (min bodyLimit n)

/-- What a request is answered that its path and `GET` lead to an endpoint. -/
theorem answer_get {route : Route} {e : Endpoint} (hget : r.method = "GET")
    (hroute : Route.ofPath? r.target.path = some route) (he : route.endpoint? "GET" = some e) :
    s.answer now st r =
      if tooLong r then lengthRefusal
      else match ((s.handle now e (s.prepared now st r)).outcome (s.resolved now st r).2).1 with
        | .ok response => response
        | .error response => response := by
  have hhead : ("GET" == "HEAD") = false := by decide
  have hlayers := s.outcome_layers now st r fun r => settle (s.handle now e r)
  unfold answer respond respondThrough
  simp only [hroute, hget, he, hhead]
  rw [Step.outcome_bind, hlayers]
  cases tooLong r with
  | true => rfl
  | false =>
    show (Step.outcome (settle _) _).1 = _
    rw [Step.outcome_settle]
    rfl

/-- Taking an impersonation header into account leaves a warning at most. -/
theorem outcome_withImpersonation (scope : Scope) (header : Option String) :
    Handler.outcome (scope.withImpersonation header) st = (.ok (scope.impersonating header), st) := by
  unfold Scope.withImpersonation
  split <;> rfl

variable {r}

theorem outcome_context {c : Context} (h : r.context = some c) :
    Handler.outcome (context r) st = (.ok c, st) := by
  unfold context
  rw [h]
  rfl

/-- The scope is that of whatever context is on the request. -/
theorem outcome_scope_of_context {c : Context} (h : r.context = some c) :
    Handler.outcome (s.scope r) st = (.ok (((Scope.of c r.principal).impersonating
      (r.header? s.settings.impersonationHeader)).withStrict s.settings.strict), st) := by
  unfold scope
  rw [Handler.outcome_bind_ok _ (outcome_context st h),
    Handler.outcome_bind_ok _ (outcome_withImpersonation _ _ _)]
  rfl

variable (r)

theorem outcome_scope (st' : State) :
    Handler.outcome (s.scope (s.prepared now st r)) st' = (.ok (s.scopeOf now st r), st') :=
  s.outcome_scope_of_context st' rfl

end Service

end Tenancy.Http
