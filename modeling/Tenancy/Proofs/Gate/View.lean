import Tenancy.Proofs.Gate.Standing

/-!
# What decisions see of a scope

A scope holds more than a decision may see: the moment of its resolution, and an impersonated tenant
that has no say once a tenant was resolved. Two scopes of which everything that is seen is the same
have the `SameView`, the answers of the base policy included; whatever the gate decides or gives is
the same for both.

A base policy is free to look at the moment; one that does not is `Timeless`. A scope keeps its
impersonated tenant to itself: it tells the effective tenant, and whether that is the impersonated
one, so of a scope with a resolved tenant nobody learns anything about it. Here a base policy is a
function of the whole scope, so that much has to be said: it is `Discreet`.
-/

set_option autoImplicit false

namespace Tenancy

/-! ## Base policies -/

namespace Policy

variable (p : Policy)

/-- The policy gives the same answers to two scopes. -/
def AgreesOn (scope scope' : Scope) : Prop :=
  ∀ r, p.canAccess scope r = p.canAccess scope' r ∧ p.raise scope r = p.raise scope' r

/-- The policy does not look at the moment of resolution. -/
def Timeless : Prop := ∀ (scope : Scope) (now : Instant),
  p.AgreesOn scope { scope with context := { scope.context with resolvedAt := now } }

/-- The policy does not look for an impersonated tenant where a tenant was resolved. -/
def Discreet : Prop := ∀ (scope : Scope) (t : Option TenantId), scope.context.tenant.isSome = true →
  p.AgreesOn scope { scope with impersonated := t }

variable {p}

theorem AgreesOn.refl (scope : Scope) : p.AgreesOn scope scope := fun _ => ⟨rfl, rfl⟩

theorem AgreesOn.trans {a b c : Scope} (hab : p.AgreesOn a b) (hbc : p.AgreesOn b c) :
    p.AgreesOn a c := fun r =>
  ⟨(hab r).1.trans (hbc r).1, (hab r).2.trans (hbc r).2⟩

end Policy

/-! ## Scopes -/

/-- Everything that decisions see of two scopes is the same. -/
structure Scope.SameView (p : Policy) (scope scope' : Scope) : Prop where
  resolved : scope.context.tenant = scope'.context.tenant
  source : scope.context.source = scope'.context.source
  principal : scope.principal = scope'.principal
  tenant : scope.tenant = scope'.tenant
  impersonating : scope.isImpersonating = scope'.isImpersonating
  strict : scope.strict = scope'.strict
  policy : p.AgreesOn scope scope'

/-- Another moment is not seen by a policy that is timeless, and another impersonated tenant not
where a tenant was resolved. -/
theorem Scope.sameView_of {p : Policy} {scope : Scope} {now : Instant} {t : Option TenantId}
    (hmoment : now = scope.context.resolvedAt ∨ p.Timeless)
    (himpersonated : t = scope.impersonated ∨
      p.Discreet ∧ scope.context.tenant.isSome = true) :
    SameView p scope
      { scope with context := { scope.context with resolvedAt := now }, impersonated := t } := by
  have hat :
      p.AgreesOn scope { scope with context := { scope.context with resolvedAt := now } } := by
    rcases hmoment with rfl | htimeless
    · exact .refl _
    · exact htimeless scope now
  rcases himpersonated with rfl | ⟨hdiscreet, hresolved⟩
  · exact ⟨rfl, rfl, rfl, rfl, rfl, rfl, hat⟩
  · obtain ⟨resolved, hsome⟩ := Option.isSome_iff_exists.mp hresolved
    refine ⟨rfl, rfl, rfl, ?_, ?_, rfl, hat.trans (hdiscreet _ t hresolved)⟩
    · simp [Scope.tenant, hsome]
    · simp [isImpersonating, hsome]

namespace Scope.SameView

variable {p : Policy} {scope scope' : Scope}

theorem standing (h : SameView p scope scope') : SameStanding scope scope' :=
  ⟨h.principal, h.tenant, h.strict⟩

variable {gate : Gate} (h : SameView gate.policy scope scope')
include h

/-- **Two callers of whom the same is seen are listed the same.** -/
theorem listing (inv : Inventory) (table : Table) :
    gate.listing scope inv table = gate.listing scope' inv table :=
  congrArg Id.run (h.standing.rights.listAccessible (fun r => (h.policy r).1) inv.catalog table)

/-- **Two callers of whom the same is seen are given the same row, or refused alike.** -/
theorem reading (inv : Inventory) (table : Table) (id : String) :
    gate.reading scope inv table id = gate.reading scope' inv table id := by
  unfold Gate.reading
  rw [h.standing.rights.getAccessible fun r => (h.policy r).2]

end Scope.SameView

end Tenancy
