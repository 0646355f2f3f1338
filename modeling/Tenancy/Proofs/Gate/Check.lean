import Tenancy.Catalog
import Tenancy.Gate

/-!
# What the tenant check decides

The check is written as a descent along the chain of owners that stops early and has three outcomes.
What it decides needs neither the order nor the recursion: under a tenant, a resource is denied
exactly if something on its chain carries the label of another tenant (`tenantCheck_eq_deny_iff`).
Everything else about the gate is read off this and off the two cases without a tenant.
-/

set_option autoImplicit false

namespace Tenancy

namespace Scope

variable {s : Scope} {t : TenantId}

theorem deniesUnscopedCaller_iff :
    s.deniesUnscopedCaller = true ↔ s.strict = true ∧ s.tenant = none ∧ s.isAdmin = false := by
  simp [deniesUnscopedCaller, and_assoc]

theorem deniesUnscopedCaller_of_tenant (h : s.tenant = some t) :
    s.deniesUnscopedCaller = false := by
  simp [deniesUnscopedCaller, h]

end Scope

/-! ## Labels of other tenants -/

/-- What is looked at carries the label of a tenant other than `t`. -/
def Facet.Foreign (t : TenantId) (f : Facet) : Prop := ∃ l, f.label = some (some l) ∧ l ≠ t

theorem Row.foreign_facet_iff {t : TenantId} {r : Row} :
    r.facet.Foreign t ↔ r.labeled = true ∧ ∃ l, r.tenantId = some l ∧ l ≠ t := by
  cases hl : r.labeled <;> simp [facet, Facet.Foreign, hl]

/-- The chain that decisions see of a row is the chain of rows, each as it is seen. -/
theorem exists_foreign_resource_iff {t : TenantId} {r : OwnedRow} :
    (∃ f ∈ (resource r).chain, f.Foreign t) ↔ ∃ x ∈ r.chain, x.facet.Foreign t := by
  show (∃ f ∈ (r.map Row.facet).chain, f.Foreign t) ↔ _
  rw [Owned.chain_map]
  constructor
  · rintro ⟨f, hf, hfor⟩
    obtain ⟨x, hx, rfl⟩ := List.mem_map.mp hf
    exact ⟨x, hx, hfor⟩
  · rintro ⟨x, hx, hfor⟩
    exact ⟨x.facet, List.mem_map_of_mem hx, hfor⟩

/-! ## The check, case by case -/

section Check

variable {scope : Scope} {t : TenantId}

theorem facetCheck_eq_deny_iff (h : scope.tenant = some t) (f : Facet) :
    facetCheck scope f = .deny ↔ f.Foreign t := by
  unfold facetCheck
  rw [Scope.deniesUnscopedCaller_of_tenant h, h]
  rcases hf : f.label with _ | _ | l
  · simp [Facet.Foreign, hf]
  · simp [Facet.Foreign, hf]
  · by_cases hl : l = t <;> simp [Facet.Foreign, hf, hl]

theorem facetCheck_ne_notApplicable (h : scope.tenant = some t) (f : Facet) :
    facetCheck scope f ≠ .notApplicable := by
  unfold facetCheck
  rw [Scope.deniesUnscopedCaller_of_tenant h, h]
  rcases f.label with _ | _ | l
  · simp
  · simp
  · by_cases hl : l = t <;> simp [hl]

theorem facetCheck_eq_allow (h : scope.tenant = some t) {f : Facet} (hf : ¬f.Foreign t) :
    facetCheck scope f = .allow := by
  cases hc : facetCheck scope f with
  | allow => rfl
  | deny => exact absurd ((facetCheck_eq_deny_iff h f).mp hc) hf
  | notApplicable => exact absurd hc (facetCheck_ne_notApplicable h f)

/-- **Under a tenant, a resource is denied exactly if something it belongs to, or the resource
itself, carries the label of another tenant.** The induction is along the chain of owners; an owner
that is allowed hides nothing, because the check goes on past it only to look for a denial. -/
theorem tenantCheck_eq_deny_iff (h : scope.tenant = some t) (r : Resource) :
    tenantCheck scope r = .deny ↔ ∃ f ∈ r.chain, f.Foreign t := by
  induction r with
  | free f => simpa [tenantCheck, Owned.chain] using facetCheck_eq_deny_iff h f
  | under f owner ih =>
    by_cases hf : f.Foreign t
    · have hd := (facetCheck_eq_deny_iff h f).mpr hf
      simp [tenantCheck, Owned.chain, hd, hf]
    · have ha := facetCheck_eq_allow h hf
      simp [tenantCheck, Owned.chain, ha, hf, ih]

theorem tenantCheck_ne_notApplicable (h : scope.tenant = some t) (r : Resource) :
    tenantCheck scope r ≠ .notApplicable := by
  cases r with
  | free f => exact facetCheck_ne_notApplicable h f
  | under f owner =>
    by_cases hf : f.Foreign t
    · have hd := (facetCheck_eq_deny_iff h f).mpr hf
      simp [tenantCheck, hd]
    · have ha := facetCheck_eq_allow h hf
      by_cases ho : tenantCheck scope owner = .deny <;> simp [tenantCheck, ha, ho]

/-- A caller who is refused for want of a tenant is denied every resource. -/
theorem tenantCheck_of_denied (h : scope.deniesUnscopedCaller = true) (r : Resource) :
    tenantCheck scope r = .deny := by
  cases r <;> simp [tenantCheck, facetCheck, h]

/-- Without a tenant the check has nothing to say, whatever the labels. -/
theorem tenantCheck_of_no_tenant (hd : scope.deniesUnscopedCaller = false)
    (h : scope.tenant = none) (r : Resource) : tenantCheck scope r = .notApplicable := by
  cases r <;> simp [tenantCheck, facetCheck, hd, h]

end Check

/-! ## Rows that were found -/

namespace Gate

/-- What comes of a row that was found: a denial, or whatever the base policy makes of it. -/
def checked (gate : Gate) (scope : Scope) (r : OwnedRow) : Except Error OwnedRow :=
  if tenantCheck scope (resource r) = .deny then .error (.accessDenied r.item.kind r.item.id)
  else (gate.policy.raise scope (resource r)).map fun _ => r

variable {gate : Gate} {scope : Scope} {r : OwnedRow}

theorem checked_of_deny (h : tenantCheck scope (resource r) = .deny) :
    gate.checked scope r = .error (.accessDenied r.item.kind r.item.id) := if_pos h

theorem checked_of_not_deny (h : tenantCheck scope (resource r) ≠ .deny) :
    gate.checked scope r = (gate.policy.raise scope (resource r)).map fun _ => r := if_neg h

theorem checked_eq_ok_iff {r' : OwnedRow} :
    gate.checked scope r = .ok r' ↔
      r = r' ∧ tenantCheck scope (resource r) ≠ .deny ∧
        gate.policy.raise scope (resource r) = .ok () := by
  by_cases hc : tenantCheck scope (resource r) = .deny
  · rw [checked_of_deny hc]
    exact ⟨fun h => absurd h (by simp), fun h => absurd hc h.2.1⟩
  · rw [checked_of_not_deny hc]
    cases gate.policy.raise scope (resource r) with
    | ok _ => exact ⟨fun h => ⟨Except.ok.inj h, hc, rfl⟩, fun h => congrArg Except.ok h.1⟩
    | error e => exact ⟨fun h => absurd h (by simp [Except.map]), fun h => absurd h.2.2 (by simp)⟩

end Gate

end Tenancy
