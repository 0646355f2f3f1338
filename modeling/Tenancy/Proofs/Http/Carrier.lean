import Tenancy.Proofs.Http.Answer
import Tenancy.Proofs.Text.LowerCase

/-!
# The context of a request is written once

Layers that resolve tenants can stand one inside the other, each with settings and a state of its
own. Only the outermost one resolves: behind it the request has a context, and a layer that finds
one leaves a warning and hands the request on as it is (`stacked_of_context`). So what reaches the
handlers is the request with the context it came with, or else with the one that the outermost layer
read off it by its own settings (`stacked_of_no_context`). What such a layer looks at are the first
headers of the names in its settings, and the host (`Request.signalled`).

Several services have several states. `Shared` holds one for each place, and a step of a service is
run `within` the place of its state.
-/

set_option autoImplicit false

namespace Tenancy.Http

/-! ## Layers one inside the other -/

structure Resolver (m : Type → Type) where
  settings : Settings
  resolve : Signals → Option Principal → m Context

section Layers

variable {m : Type → Type} [Monad m] [Logging m]

def Resolver.layer (x : Resolver m) : Layer m := resolveTenant x.settings x.resolve

/-- Layers one inside the other, the first outermost. -/
def stacked (xs : List (Resolver m)) : Layer m := fun inner => xs.foldr Resolver.layer inner

/-- The warnings of layers that find a context. -/
def keptBy (path : String) : Nat → m PUnit
  | 0 => pure ⟨⟩
  | n + 1 => do
    note (.contextKept path)
    keptBy path n

variable (x : Resolver m) (xs : List (Resolver m)) (inner : Request → m Response) {r : Request}

theorem stacked_cons : stacked (x :: xs) inner = x.layer (stacked xs inner) := rfl

theorem Resolver.layer_of_context {c : Context} (h : r.context = some c) :
    x.layer inner r = (do note (.contextKept r.path); inner r) := by
  unfold Resolver.layer resolveTenant
  rw [h]

theorem Resolver.layer_of_no_context (h : r.context = none) :
    x.layer inner r = (do
      let c ← x.resolve (r.signals x.settings) r.principal
      inner { r with context := some c }) := by
  unfold Resolver.layer resolveTenant
  rw [h]

variable [LawfulMonad m]

/-- **A request with a context goes through every layer as it is.** -/
theorem stacked_of_context {c : Context} (h : r.context = some c) :
    stacked xs inner r = (do keptBy r.path xs.length; inner r) := by
  induction xs with
  | nil => exact (pure_bind PUnit.unit fun _ => inner r).symm
  | cons x xs ih =>
    -- the request is handed on as it is, so the context is there for the layers inside too
    rw [stacked_cons, x.layer_of_context _ h, ih, List.length_cons, keptBy, bind_assoc]

/-- **A request without a context gets that of the outermost layer.** -/
theorem stacked_of_no_context (h : r.context = none) :
    stacked (x :: xs) inner r = (do
      let c ← x.resolve (r.signals x.settings) r.principal
      keptBy r.path xs.length
      inner { r with context := some c }) := by
  rw [stacked_cons, x.layer_of_no_context _ h]
  refine congrArg _ (funext fun c => ?_)
  exact stacked_of_context xs inner rfl

end Layers

/-! ## Several services -/

/-- Steps over the states of several services. -/
abbrev Shared (ι : Type) := StateT (ι → State) Logged

variable {ι : Type} [DecidableEq ι]

/-- A step of the service whose state is at a place. -/
def within {α : Type} (i : ι) (x : Step α) : Shared ι α := fun states => do
  let (a, st) ← x (states i)
  return (a, fun j => if j = i then st else states j)

/-- A service that resolves tenants: where its state is, and the moment at which it is asked. -/
structure Mount (ι : Type) where
  place : ι
  service : Service
  moment : Instant

namespace Mount

def resolve (x : Mount ι) (signals : Signals) (principal : Option Principal) : Shared ι Context :=
  within x.place (onMemo (Resolution.resolve x.service.settings x.moment signals principal))

def resolver (x : Mount ι) : Resolver (Shared ι) := ⟨x.service.settings, x.resolve⟩

end Mount

def mounted (xs : List (Mount ι)) : Layer (Shared ι) := stacked (xs.map Mount.resolver)

/-! ## What a layer looks at -/

namespace Request

open Text

/-- The first header of a name, in whatever letter case, has this value, and the value can be read. -/
structure Says (r : Request) (name value : String) : Prop where
  isName : Settings.isHeaderName name = true
  first : ∃ front written back, r.headers = front ++ (written, value) :: back ∧
    AlikeInCase written.toList name.toList ∧
    ∀ h ∈ front, ¬AlikeInCase h.1.toList name.toList
  readable : ∀ c ∈ value.toList, (0x20 ≤ c.toNat ∧ c.toNat ≤ 0x7E) ∨ c = '\t'

theorem isReadable_iff {value : String} : isReadable value = true ↔
    ∀ c ∈ value.toList, (0x20 ≤ c.toNat ∧ c.toNat ≤ 0x7E) ∨ c = '\t' := by
  unfold isReadable
  simp only [List.all_eq_true, Bool.or_eq_true, Bool.and_eq_true, decide_eq_true_eq, beq_iff_eq]

theorem header?_eq_some_iff {r : Request} {name value : String} :
    r.header? name = some value ↔ r.Says name value := by
  unfold header?
  constructor
  · intro h
    split at h
    · next hname =>
      split at h
      · next written found hfind =>
        split at h
        · next hreadable =>
          obtain rfl := Option.some.inj h
          obtain ⟨hsame, front, back, hheaders, hfront⟩ := List.find?_eq_some_iff_append.mp hfind
          refine ⟨hname, ⟨front, written, back, hheaders, sameName_iff.mp hsame,
            fun x hx halike => ?_⟩, isReadable_iff.mp hreadable⟩
          have hother := hfront x hx
          rw [sameName_iff.mpr halike] at hother
          cases hother
        · cases h
      · cases h
    · cases h
  · rintro ⟨hname, ⟨front, written, back, hheaders, halike, hfront⟩, hreadable⟩
    have hfind : (r.headers.find? fun h => sameName h.1 name) = some (written, value) := by
      refine List.find?_eq_some_iff_append.mpr
        ⟨sameName_iff.mpr halike, front, back, hheaders, fun x hx => ?_⟩
      rw [Bool.not_eq_true', Bool.eq_false_iff]
      exact mt sameName_iff.mp (hfront x hx)
    rw [if_pos hname, hfind]
    exact if_pos (isReadable_iff.mpr hreadable)

/-- What signals say of a request under some settings. -/
structure Signalled (r : Request) (settings : Settings) (x : Signals) : Prop where
  tenantHeader : ∀ v, x.tenantHeader = some v ↔ r.Says settings.tenantHeader v
  impersonationHeader : ∀ v,
    x.impersonationHeader = some v ↔ r.Says settings.impersonationHeader v
  /-- The host header counts, and without one that can be read the host that the target names. -/
  host : ∀ v, x.host = some v ↔
    r.Says "host" v ∨ (∀ w, ¬r.Says "host" w) ∧ r.target.host? = some v

theorem signalled (r : Request) (settings : Settings) :
    r.Signalled settings (r.signals settings) where
  tenantHeader _ := header?_eq_some_iff
  impersonationHeader _ := header?_eq_some_iff
  host v := by
    show (r.header? "host" <|> r.target.host?) = some v ↔ _
    simp only [← header?_eq_some_iff]
    cases r.header? "host" <;> simp

end Request

/-! ## What is read off a request -/

/-- Whoever asks a request for its context or its scope gets this context. -/
structure Carries (r : Request) (c : Context) : Prop where
  context : ∀ st, Handler.outcome (Service.context r) st = (.ok c, st)
  scope : ∀ (s : Service) (st : State), ∃ scope, Handler.outcome (s.scope r) st = (.ok scope, st) ∧
    scope.context = c ∧ scope.principal = r.principal

/-- The response where nobody has resolved the tenant. -/
def contextMissing : Response :=
  .ofError (.internal "tenant context missing; resolve_tenant layer not installed")

/-- Whoever asks a request for its context or its scope is refused. -/
structure CarriesNone (r : Request) : Prop where
  context : ∀ st, Handler.outcome (Service.context r) st = (.error contextMissing, st)
  scope : ∀ (s : Service) (st : State),
    Handler.outcome (s.scope r) st = (.error contextMissing, st)

theorem outcome_context_of_none {r : Request} (h : r.context = none) (st : State) :
    Handler.outcome (Service.context r) st = (.error contextMissing, st) := by
  unfold Service.context
  rw [h]
  rfl

theorem carries_of_some {r : Request} {c : Context} (h : r.context = some c) : Carries r c where
  context st := Service.outcome_context st h
  scope s st := ⟨_, s.outcome_scope_of_context st h, rfl, rfl⟩

theorem carriesNone_of_none {r : Request} (h : r.context = none) : CarriesNone r where
  context := outcome_context_of_none h
  scope s st := by
    unfold Service.scope
    rw [Handler.outcome_bind, outcome_context_of_none h]

/-! ## The layers of services -/

/-- What becomes of a request behind the layers of some services, the first one outermost, and
without any. -/
structure WrittenOnce (outer : Mount ι) (inside : List (Mount ι)) (r : Request) : Prop where
  signals : r.Signalled outer.service.settings (r.signals outer.service.settings)
  kept : ∀ c, r.context = some c → Carries r c ∧
    ∀ inner, mounted (outer :: inside) inner r = do
      keptBy r.path (inside.length + 1)
      inner r
  resolved : r.context = none →
    (∀ inner, mounted (outer :: inside) inner r = do
      let c ← outer.resolve (r.signals outer.service.settings) r.principal
      keptBy r.path inside.length
      inner { r with context := some c }) ∧
    ∀ c, Carries { r with context := some c } c
  bare : r.context = none → CarriesNone r ∧ ∀ inner, mounted ([] : List (Mount ι)) inner r = inner r

/-- **The context of a request is written once**, however many services resolve tenants around its
handlers, and whatever their settings and states. -/
theorem writtenOnce (outer : Mount ι) (inside : List (Mount ι)) (r : Request) :
    WrittenOnce outer inside r where
  signals := r.signalled outer.service.settings
  kept c h := by
    refine ⟨carries_of_some h, fun inner => ?_⟩
    rw [mounted, stacked_of_context _ inner h, List.length_map, List.length_cons]
  resolved h := by
    refine ⟨fun inner => ?_, fun c => carries_of_some rfl⟩
    rw [mounted, List.map_cons, stacked_of_no_context _ _ inner h, List.length_map]
    rfl
  bare h := ⟨carriesNone_of_none h, fun _ => rfl⟩

end Tenancy.Http
