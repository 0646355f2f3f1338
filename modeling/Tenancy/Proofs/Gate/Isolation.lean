import Tenancy.Proofs.Gate.Inventory

/-!
# What the gate keeps apart

Whoever acts for a tenant is shown a row only if neither the row nor what it belongs to is labelled
with another tenant; `Isolated` says so of one row, and it holds of everything that is listed and of
everything that is read, although the two are decided by different rules. Without a tenant there is
nothing to keep apart: a caller is either refused outright, or the base policy alone decides.
-/

set_option autoImplicit false

namespace Tenancy

namespace Owned

variable {α : Type}

theorem item_mem_chain (x : Owned α) : x.item ∈ x.chain := by
  cases x <;> simp [item, chain]

theorem owner_mem_chain {x o : Owned α} (h : x.owner? = some o) : o.item ∈ x.chain := by
  cases x with
  | free a => exact absurd h (by simp [owner?])
  | under a p =>
    obtain rfl := Option.some.inj h
    exact List.mem_cons_of_mem _ (item_mem_chain p)

end Owned

namespace Table

theorem ofKind_kind (k : Kind) : (ofKind k).kind = k := by cases k <;> rfl

theorem ofKind_tenantColumn (k : Kind) : (ofKind k).tenantColumn = some labelColumn := by
  cases k <;> rfl

end Table

/-- What a row may look like that a tenant's caller is shown: where it can carry a label it carries
the tenant's, or none if unlabelled rows are shown; and where its owner can carry one, the owner
carries the tenant's or none. -/
structure Isolated (t : TenantId) (unlabeled : Bool) (r : OwnedRow) : Prop where
  own : r.item.labeled = true →
    r.item.tenantId = some t ∨ r.item.tenantId = none ∧ unlabeled = true
  owner : ∀ o, r.owner? = some o → o.item.labeled = true →
    o.item.tenantId = some t ∨ o.item.tenantId = none

/-- A row on whose chain nothing is foreign is fit to be shown. -/
theorem isolated_of_not_foreign {t : TenantId} {r : OwnedRow}
    (h : ¬∃ x ∈ r.chain, x.facet.Foreign t) : Isolated t true r := by
  have hlabel : ∀ x ∈ r.chain, x.labeled = true → x.tenantId = some t ∨ x.tenantId = none := by
    intro x hx hlab
    cases hl : x.tenantId with
    | none => exact .inr rfl
    | some l =>
      refine .inl (congrArg some (Classical.not_not.mp fun hne => h ⟨x, hx, ?_⟩))
      exact Row.foreign_facet_iff.mpr ⟨hlab, l, hl, hne⟩
  refine ⟨fun hlab => ?_, fun o ho => hlabel o.item (Owned.owner_mem_chain ho)⟩
  exact (hlabel r.item (Owned.item_mem_chain r) hlab).imp_right fun hn => ⟨hn, rfl⟩

theorem Filter.isolated_of_admitsRow {f : Filter} {r : OwnedRow} (h : f.admitsRow r = true) :
    Isolated f.tenant f.includeUnscoped r := by
  obtain ⟨hown, howner⟩ := Filter.admitsRow_iff.mp h
  exact ⟨fun _ => hown, fun o ho _ => howner o ho⟩

namespace Gate

variable {gate : Gate} {scope : Scope} {inv : Inventory} {table : Table} {t : TenantId}
  {r : OwnedRow}

/-! ## With a tenant -/

/-- **Whatever a tenant's caller is listed is fit to be shown.** -/
theorem isolated_of_mem_listing {column : String} (hcolumn : table.tenantColumn = some column)
    (ht : scope.tenant = some t) (h : r ∈ gate.listing scope inv table) :
    Isolated t gate.listUnscoped r := by
  obtain ⟨-, hpass, -⟩ := of_mem_listing h
  rw [listFilter_of_tenant ht hcolumn] at hpass
  exact Filter.isolated_of_admitsRow (f := ⟨column, t, gate.listUnscoped, table.owner⟩) hpass

/-- **Whatever a tenant's caller reads is fit to be shown.** -/
theorem isolated_of_reading {id : String} (ht : scope.tenant = some t)
    (h : gate.reading scope inv table id = .ok r) : Isolated t true r := by
  obtain ⟨-, hcheck, -⟩ := reading_eq_ok_iff.mp h
  refine isolated_of_not_foreign fun hfor => hcheck ?_
  exact (tenantCheck_eq_deny_iff ht _).mpr (exists_foreign_resource_iff.mpr hfor)

/-! ## Without a tenant -/

theorem listing_of_denied (h : scope.deniesUnscopedCaller = true) :
    gate.listing scope inv table = [] := by
  rw [listing_eq, if_pos h]

theorem reading_of_denied (h : scope.deniesUnscopedCaller = true) (id : String) :
    gate.reading scope inv table id ≠ .ok r := by
  intro hok
  obtain ⟨-, hcheck, -⟩ := reading_eq_ok_iff.mp hok
  exact hcheck (tenantCheck_of_denied h _)

/-- Any other caller without a tenant is listed the first rows of the kind, as far as the base
policy allows. -/
theorem listing_of_no_tenant (hd : scope.deniesUnscopedCaller = false) (h : scope.tenant = none) :
    gate.listing scope inv table =
      gate.keep scope ((inv.ofKind table.kind).take listLimit) := by
  rw [listing_eq, hd, listFilter_of_no_tenant h]
  show gate.keep scope (inv.list table none) = _
  unfold Inventory.list
  rw [show (inv.ofKind table.kind).filter (passes none) = inv.ofKind table.kind from
    List.filter_eq_self.mpr fun _ _ => rfl]

/-- Any other caller without a tenant reads what the base policy does not object to. -/
theorem reading_of_no_tenant (hd : scope.deniesUnscopedCaller = false) (h : scope.tenant = none)
    (id : String) :
    gate.reading scope inv table id =
      match inv.get? table id with
      | none => .error (.resourceNotFound table.kind id)
      | some r => (gate.policy.raise scope (resource r)).map fun _ => r := by
  rw [reading_eq]
  cases inv.get? table id with
  | none => rfl
  | some r =>
    exact checked_of_not_deny (by rw [tenantCheck_of_no_tenant hd h]; decide)

end Gate

end Tenancy
