import Tenancy.Proofs.Gate.Inventory

/-!
# What a scope stands for

The gate asks a scope for three things only: the caller, the effective tenant, and whether the
caller is refused for want of one. Where the effective tenant came from it never asks, nor whether
tenancy is strict where that refuses nobody. So scopes with the same rights (`Scope.SameRights`) pass
the same tenant check, and what the gate does for them is the same computation in every monad and
over every catalog, its events included, as far as the base policy answers them alike. Scopes of one
standing have the same rights, and so have a strict scope and a lax one where there is a tenant or
the caller is an administrator.
-/

set_option autoImplicit false

namespace Tenancy

/-- Two scopes are of one caller, with one effective tenant, and both strict or neither. -/
structure Scope.SameStanding (scope scope' : Scope) : Prop where
  principal : scope.principal = scope'.principal
  tenant : scope.tenant = scope'.tenant
  strict : scope.strict = scope'.strict

/-- What the gate asks a scope for is the same of both. -/
structure Scope.SameRights (scope scope' : Scope) : Prop where
  principal : scope.principal = scope'.principal
  tenant : scope.tenant = scope'.tenant
  denied : scope.deniesUnscopedCaller = scope'.deniesUnscopedCaller

namespace Scope

theorem SameStanding.rights {scope scope' : Scope} (h : SameStanding scope scope') :
    SameRights scope scope' := by
  refine ⟨h.principal, h.tenant, ?_⟩
  unfold deniesUnscopedCaller isAdmin
  rw [h.strict, h.tenant, h.principal]

/-- Strictness takes nothing from a caller with a tenant, nor from an administrator. -/
theorem sameRights_withStrict {scope : Scope}
    (h : scope.tenant.isSome = true ∨ scope.isAdmin = true) (strict strict' : Bool) :
    SameRights (scope.withStrict strict) (scope.withStrict strict') := by
  have hnobody : ∀ b, (scope.withStrict b).deniesUnscopedCaller = false := by
    intro b
    show (b && scope.tenant.isNone && !scope.isAdmin) = false
    rcases h with h | h
    · rw [Option.isNone_eq_false_iff.mpr h, Bool.and_false, Bool.false_and]
    · rw [h, Bool.not_true, Bool.and_false]
  exact ⟨rfl, rfl, (hnobody strict).trans (hnobody strict').symm⟩

end Scope

namespace Scope.SameRights

variable {scope scope' : Scope} (h : SameRights scope scope')
include h

theorem facetCheck (f : Facet) : facetCheck scope f = Tenancy.facetCheck scope' f := by
  unfold Tenancy.facetCheck
  rw [h.denied, h.tenant]

/-- The tenant check is the same along the whole chain of owners. -/
theorem tenantCheck (r : Resource) : tenantCheck scope r = Tenancy.tenantCheck scope' r := by
  induction r with
  | free f => exact h.facetCheck f
  | under f owner ih => rw [Tenancy.tenantCheck, Tenancy.tenantCheck, h.facetCheck, ih]

theorem tenantName : scope.tenantName = scope'.tenantName := by
  unfold Scope.tenantName
  rw [h.tenant]

/-! ## The ways into the gate -/

variable {gate : Gate} {m : Type → Type} [Monad m]

theorem consult [Logging m] {ask : Scope → Resource → m Bool} {r : Resource}
    (hask : ask scope r = ask scope' r) : Gate.consult ask scope r = Gate.consult ask scope' r := by
  unfold Gate.consult
  rw [h.tenantCheck, hask]

theorem canAccess [Logging m] {r : Resource}
    (hpolicy : gate.policy.canAccess scope r = gate.policy.canAccess scope' r) :
    (gate.canAccess scope r : m Bool) = gate.canAccess scope' r :=
  h.consult (congrArg pure hpolicy)

theorem raise [Logging m] [MonadExceptOf Error m] {r : Resource}
    (hpolicy : gate.policy.raise scope r = gate.policy.raise scope' r) :
    (gate.raise scope r : m Unit) = gate.raise scope' r := by
  unfold Gate.raise
  rw [h.tenantCheck, h.tenantName, hpolicy]

theorem datasources {database : Database} {names : List String}
    (hpolicy : gate.policy.datasources scope database names =
      gate.policy.datasources scope' database names) :
    gate.datasources scope database names = gate.datasources scope' database names := by
  unfold Gate.datasources
  rw [h.tenantCheck, hpolicy]

theorem listAccessible
    (hpolicy : ∀ r, gate.policy.canAccess scope r = gate.policy.canAccess scope' r)
    (catalog : Catalog m) (table : Table) :
    gate.listAccessible scope catalog table = gate.listAccessible scope' catalog table := by
  have hfilter : gate.listFilter scope table = gate.listFilter scope' table := by
    unfold Gate.listFilter
    rw [h.tenant]
  have hkeep : gate.keep scope = gate.keep scope' := by
    funext rows
    exact List.filter_congr fun r _ => hpolicy (resource r)
  unfold Gate.listAccessible
  rw [h.denied, hfilter, hkeep]

theorem getAccessible [Logging m] [MonadExceptOf Error m]
    (hpolicy : ∀ r, gate.policy.raise scope r = gate.policy.raise scope' r)
    (catalog : Catalog m) (table : Table) (id : String) :
    gate.getAccessible scope catalog table id = gate.getAccessible scope' catalog table id := by
  have hraise : ∀ r, (gate.raise scope r : m Unit) = gate.raise scope' r := fun r =>
    h.raise (hpolicy r)
  unfold Gate.getAccessible
  simp only [hraise]

end Scope.SameRights

end Tenancy
