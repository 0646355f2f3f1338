import Tenancy.Proofs.Gate.Check

/-!
# The gate in front of rows in memory

A catalog in memory answers without effect, so what the gate gives from it is a plain value in
whatever monad it is asked: `listing` for a table in bulk and `reading` for one row by its id. Both
are the gate's own functions, run; `listing_eq` and `reading_eq` say what they come to, once, and
nothing below them opens a monad again.
-/

set_option autoImplicit false

namespace Tenancy

/-! ## What a filter admits -/

/-- **A filter admits a row by two labels**: its own is the tenant's, or is missing where that is
enough; and its owner's is the tenant's, or is missing. -/
theorem Filter.admitsRow_iff {f : Filter} {r : OwnedRow} :
    f.admitsRow r = true ↔
      (r.item.tenantId = some f.tenant ∨
        r.item.tenantId = none ∧ f.includeUnscoped = true) ∧
      ∀ o, r.owner? = some o → o.item.tenantId = some f.tenant ∨ o.item.tenantId = none := by
  unfold admitsRow admits
  rw [Bool.and_eq_true]
  refine and_congr ?_ ?_
  · cases r.item.tenantId <;> simp
  · cases r.owner? with
    | none => simp
    | some o => cases ho : o.item.tenantId <;> simp [ho]

namespace Gate

variable {gate : Gate} {scope : Scope} {inv : Inventory} {table : Table} {t : TenantId}

theorem listFilter_of_no_tenant (h : scope.tenant = none) : gate.listFilter scope table = none := by
  simp [listFilter, h]

theorem listFilter_of_tenant {column : String} (h : scope.tenant = some t)
    (hc : table.tenantColumn = some column) :
    gate.listFilter scope table = some ⟨column, t, gate.listUnscoped, table.owner⟩ := by
  simp [listFilter, h, Filter.of?, hc]

/-! ## Listings -/

/-- The rows of a table that a caller may see in bulk, out of rows in memory. -/
def listing (gate : Gate) (scope : Scope) (inv : Inventory) (table : Table) : List OwnedRow :=
  Id.run (gate.listAccessible scope inv.catalog table)

theorem listing_eq :
    gate.listing scope inv table =
      if scope.deniesUnscopedCaller then []
      else gate.keep scope (inv.list table (gate.listFilter scope table)) := by
  unfold listing listAccessible
  split <;> rfl

/-- A listing of rows in memory is the same in every monad, and has no effect in any. -/
theorem listAccessible_inventory {m : Type → Type} [Monad m] [LawfulMonad m] :
    gate.listAccessible scope inv.catalog table =
      (pure (gate.listing scope inv table) : m (List OwnedRow)) := by
  rw [listing_eq]
  unfold listAccessible Inventory.catalog
  split
  · rfl
  · rw [pure_bind]

/-- Whatever is listed is a row of the table that passes the filter and that the policy allows. -/
theorem of_mem_listing {r : OwnedRow} (h : r ∈ gate.listing scope inv table) :
    r ∈ inv.ofKind table.kind ∧ passes (gate.listFilter scope table) r = true ∧
      gate.policy.canAccess scope (resource r) = true := by
  rw [listing_eq] at h
  split at h
  · exact absurd h List.not_mem_nil
  · obtain ⟨hlist, hcan⟩ := List.mem_filter.mp h
    obtain ⟨hkind, hpass⟩ := List.mem_filter.mp (List.mem_of_mem_take hlist)
    exact ⟨hkind, hpass, hcan⟩

/-! ## Readings -/

/-- What comes of a row that was found, with the events that are left. -/
def outcome (gate : Gate) (scope : Scope) (r : OwnedRow) : Logged (Except Error OwnedRow) :=
  match tenantCheck scope (resource r) with
  | .deny => ⟨.error (.accessDenied r.item.kind r.item.id),
      [.accessRefused r.item.kind r.item.id scope.tenantName]⟩
  | _ => ⟨(gate.policy.raise scope (resource r)).map fun _ => r, []⟩

/-- Asking for a row by its id comes to what comes of the row that is found. -/
theorem run_getAccessible (id : String) :
    (gate.getAccessible scope inv.catalog table id : ExceptT Error Logged OwnedRow).run =
      match inv.get? table id with
      | none => ⟨.error (.resourceNotFound table.kind id), []⟩
      | some r => gate.outcome scope r := by
  unfold getAccessible Inventory.catalog
  rw [pure_bind]
  cases inv.get? table id with
  | none => rfl
  | some r =>
    have hitem : (resource r).item = r.item.facet := Owned.item_map Row.facet r
    simp only [raise, outcome, hitem]
    cases tenantCheck scope (resource r) with
    | deny => rfl
    | allow => cases gate.policy.raise scope (resource r) <;> rfl
    | notApplicable => cases gate.policy.raise scope (resource r) <;> rfl

theorem value_outcome (r : OwnedRow) : (gate.outcome scope r).value = gate.checked scope r := by
  unfold outcome checked
  cases tenantCheck scope (resource r) <;> rfl

/-- What comes of asking for a row in memory by its id. -/
def reading (gate : Gate) (scope : Scope) (inv : Inventory) (table : Table) (id : String) :
    Except Error OwnedRow :=
  (gate.getAccessible scope inv.catalog table id : ExceptT Error Logged OwnedRow).run.value

theorem reading_eq (id : String) :
    gate.reading scope inv table id =
      match inv.get? table id with
      | none => .error (.resourceNotFound table.kind id)
      | some r => gate.checked scope r := by
  unfold reading
  rw [run_getAccessible]
  cases inv.get? table id with
  | none => rfl
  | some r => exact value_outcome r

theorem reading_eq_ok_iff {id : String} {r : OwnedRow} :
    gate.reading scope inv table id = .ok r ↔
      inv.get? table id = some r ∧ tenantCheck scope (resource r) ≠ .deny ∧
        gate.policy.raise scope (resource r) = .ok () := by
  rw [reading_eq]
  cases inv.get? table id with
  | none => simp
  | some x =>
    show gate.checked scope x = .ok r ↔ _
    rw [checked_eq_ok_iff, Option.some.injEq]
    constructor
    · rintro ⟨rfl, h⟩
      exact ⟨rfl, h⟩
    · rintro ⟨rfl, h⟩
      exact ⟨rfl, h⟩

end Gate

end Tenancy
