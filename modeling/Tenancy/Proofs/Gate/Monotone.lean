import Tenancy.Proofs.Database.Session
import Tenancy.Proofs.Gate.Agreement
import Tenancy.Proofs.Gate.Decision
import Tenancy.Proofs.Gate.Impersonation
import Tenancy.Proofs.Gate.Limit

/-!
# Stricter settings give less

Two settings say how much callers are given, and each works in one direction. Strict tenancy refuses
some callers everything and changes nothing for the others: a caller who is refused is granted
nothing in any way into the gate (`grantsNoMore_of_denied`), and one who is not has the rights that
the lax scope has. Listings that include unlabelled rows hold the rows of those that do not, in the
same order, and some that have no label (`UnscopedOnlyAdds`); the rows must fit in a listing, since
a limit that is reached earlier by rows that were added cuts off others.
-/

set_option autoImplicit false

namespace Tenancy

namespace Gate

variable {gate : Gate} {scope scope' : Scope}

/-! ## What is granted -/

/-- A catalog with a state is asked for a row, and the decision leaves the state as it is. -/
theorem value_getAccessible {σ : Type} (rows : Catalog (ExceptT Error (StateT σ Logged)))
    (table : Table) (id : String) (s : σ) :
    ((gate.getAccessible scope rows table id).run.run s).value =
      match ((rows.get? table id).run.run s).value with
      | (.error e, s') => (.error e, s')
      | (.ok none, s') => (.error (.resourceNotFound table.kind id), s')
      | (.ok (some r), s') => (gate.checked scope r, s') := by
  unfold getAccessible
  rw [ExceptT.run_bind, StateT.run_bind, Logged.value_bind]
  rcases ((rows.get? table id).run.run s).value with ⟨e | _ | r, s'⟩
  · rfl
  · rfl
  · have hitem : (resource r).item = r.item.facet := Owned.item_map Row.facet r
    simp only [raise, checked, hitem]
    cases tenantCheck scope (resource r) with
    | deny => rfl
    | allow => rcases gate.policy.raise scope (resource r) with _ | ⟨⟩ <;> rfl
    | notApplicable => rcases gate.policy.raise scope (resource r) with _ | ⟨⟩ <;> rfl

/-- What is granted in the first scope is granted in the second, by every way into the gate. -/
structure GrantsNoMore (gate : Gate) (scope scope' : Scope) : Prop where
  canAccess : ∀ r, (gate.canAccess scope r : Logged Bool).value = true →
    (gate.canAccess scope' r : Logged Bool).value = true
  raise : ∀ r, (gate.raise scope r : ExceptT Error Logged Unit).run.value = .ok () →
    (gate.raise scope' r : ExceptT Error Logged Unit).run.value = .ok ()
  datasources : ∀ database names, gate.datasources scope database names = [] ∨
    gate.datasources scope database names = gate.datasources scope' database names
  listAccessible : ∀ (m : Type → Type) [Monad m] (rows : Catalog m) (table : Table),
    gate.listAccessible scope rows table = pure [] ∨
      gate.listAccessible scope rows table = gate.listAccessible scope' rows table
  /-- Rows that are read from anything with a state. -/
  getAccessible : ∀ (σ : Type) (rows : Catalog (ExceptT Error (StateT σ Logged))) (table : Table)
    (id : String) (s s' : σ) (r : OwnedRow),
    ((gate.getAccessible scope rows table id).run.run s).value = (.ok r, s') →
      ((gate.getAccessible scope' rows table id).run.run s).value = (.ok r, s')
  /-- Rows that are asked of a database, one statement at a time. -/
  fetched : ∀ (σ : Type) (database : σ → Database.Statement → Database.Reply × σ)
    (rows : Catalog Database.Program) (table : Table) (id : String) (s s' : σ) (r : OwnedRow),
    Database.Program.session database s (gate.getAccessible scope rows table id) = (.ok r, s') →
      Database.Program.session database s (gate.getAccessible scope' rows table id) = (.ok r, s')

theorem SameAnswers.grantsNoMore (h : gate.SameAnswers scope scope') :
    gate.GrantsNoMore scope scope' where
  canAccess r := by rw [h.canAccess]; exact id
  raise r := by rw [h.raise]; exact id
  datasources database names := .inr (h.datasources database names)
  listAccessible m _ rows table := .inr (h.listAccessible m rows table)
  getAccessible σ rows table id s s' r := by rw [h.getAccessible]; exact fun hok => hok
  fetched σ database rows table id s s' r := by rw [h.getAccessible]; exact fun hok => hok

/-! ## Strict tenancy -/

theorem checked_of_denied (h : scope.deniesUnscopedCaller = true) (r : OwnedRow) :
    gate.checked scope r = .error (.accessDenied r.item.kind r.item.id) :=
  checked_of_deny (tenantCheck_of_denied h _)

/-- **A caller who is refused for want of a tenant is granted nothing**, whatever is granted to
others. -/
theorem grantsNoMore_of_denied (h : scope.deniesUnscopedCaller = true) (scope' : Scope) :
    gate.GrantsNoMore scope scope' where
  canAccess r hyes := by
    rw [canAccess_value, if_pos (tenantCheck_of_denied h r)] at hyes
    exact absurd hyes Bool.false_ne_true
  raise r hok := by
    rw [raise_run, if_pos (tenantCheck_of_denied h r)] at hok
    exact absurd hok (by simp)
  datasources database names := by
    refine .inl ?_
    unfold Gate.datasources
    rw [tenantCheck_of_denied h]
  listAccessible m _ rows table := by
    refine .inl ?_
    unfold Gate.listAccessible
    rw [if_pos h]
  getAccessible σ rows table id s s' r hok := by
    rw [value_getAccessible] at hok
    rcases hget : ((rows.get? table id).run.run s).value with ⟨e | _ | x, s''⟩ <;>
      simp [hget, checked_of_denied h] at hok
  fetched σ database rows table id s s' r hok := by
    rw [Database.session_getAccessible_of] at hok
    rcases hget : Database.Program.session database s (rows.get? table id) with ⟨e | _ | x, s''⟩ <;>
      simp [hget, checked_of_denied h] at hok

theorem grantsNoMore_withStrict (hpolicy : gate.policy.ByCaller) (scope : Scope) :
    gate.GrantsNoMore (scope.withStrict true) (scope.withStrict false) := by
  by_cases hdenied : (scope.withStrict true).deniesUnscopedCaller = true
  · exact grantsNoMore_of_denied hdenied _
  · -- nobody is refused where tenancy is lax, so the rights are the same
    have hrights : (scope.withStrict true).SameRights (scope.withStrict false) :=
      ⟨rfl, rfl, eq_false_of_ne_true hdenied⟩
    exact (sameAnswers_of_sameRights hpolicy hrights).grantsNoMore

/-! ## Listings with unlabelled rows -/

variable {p : Policy} {inv : Inventory} {table : Table} {r : OwnedRow}

/-- What the filter of a listing lets through, if there is one. -/
theorem passes_listFilter_iff :
    passes (gate.listFilter scope table) r = true ↔
      ∀ t, scope.tenant = some t → table.tenantColumn.isSome = true →
        (r.item.tenantId = some t ∨ r.item.tenantId = none ∧ gate.listUnscoped = true) ∧
          ∀ o, r.owner? = some o → o.item.tenantId = some t ∨ o.item.tenantId = none := by
  cases ht : scope.tenant with
  | none => simp [listFilter_of_no_tenant ht, passes]
  | some t =>
    cases hcolumn : table.tenantColumn with
    | none => simp [listFilter, ht, Filter.of?, hcolumn, passes]
    | some column =>
      rw [listFilter_of_tenant ht hcolumn]
      refine Filter.admitsRow_iff.trans ⟨fun h t' ht' _ => ?_, fun h => h t rfl rfl⟩
      obtain rfl := Option.some.inj ht'
      exact h

theorem passes_of_passes_labeled
    (h : passes ((Gate.mk p false).listFilter scope table) r = true) :
    passes ((Gate.mk p true).listFilter scope table) r = true := by
  rw [passes_listFilter_iff] at h ⊢
  intro t ht hcolumn
  obtain ⟨hown, howner⟩ := h t ht hcolumn
  exact ⟨hown.imp_right fun hnone => ⟨hnone.1, rfl⟩, howner⟩

/-- What passes only where unlabelled rows are included has no label, and its owner none of another
tenant. -/
theorem unlabeled_of_passes
    (hon : passes ((Gate.mk p true).listFilter scope table) r = true)
    (hoff : ¬passes ((Gate.mk p false).listFilter scope table) r = true) :
    r.item.tenantId = none ∧
      ∀ o l, r.owner? = some o → o.item.tenantId = some l → scope.tenant = some l := by
  rw [passes_listFilter_iff] at hon hoff
  simp only [not_forall] at hoff
  obtain ⟨t, ht, hcolumn, hrefused⟩ := hoff
  obtain ⟨hown, howner⟩ := hon t ht hcolumn
  refine ⟨?_, fun o l ho hl => ?_⟩
  · rcases hown with hown | ⟨hnone, -⟩
    · exact absurd ⟨.inl hown, howner⟩ hrefused
    · exact hnone
  · rcases howner o ho with hsome | hnone
    · exact ht.trans (hsome.symm.trans hl)
    · exact absurd (hnone.symm.trans hl) (by simp)

/-- Where the rows of a kind fit in a listing, none is cut off. -/
theorem listing_of_few (hd : scope.deniesUnscopedCaller = false)
    (hfew : (inv.ofKind table.kind).length ≤ listLimit) :
    gate.listing scope inv table =
      gate.keep scope (inv.admitted table (gate.listFilter scope table)) := by
  rw [listing_of_not_denied hd, Inventory.list_eq, List.take_of_length_le]
  exact Nat.le_trans (List.length_filter_le _ _) hfew

/-- What including unlabelled rows does to a listing: the other one is the part of it that passes
the filter for labelled rows, and what that refuses has no label. -/
structure UnscopedOnlyAdds (p : Policy) (scope : Scope) (inv : Inventory) (table : Table) :
    Prop where
  sublist : ((Gate.mk p false).listing scope inv table).Sublist
    ((Gate.mk p true).listing scope inv table)
  kept : (Gate.mk p false).listing scope inv table =
    ((Gate.mk p true).listing scope inv table).filter
      (passes ((Gate.mk p false).listFilter scope table))
  added : ∀ r ∈ (Gate.mk p true).listing scope inv table,
    r ∉ (Gate.mk p false).listing scope inv table → r.item.tenantId = none ∧
      ∀ o l, r.owner? = some o → o.item.tenantId = some l → scope.tenant = some l
  unscoped : scope.tenant = none →
    (Gate.mk p false).listing scope inv table = (Gate.mk p true).listing scope inv table

theorem listing_labeled (hfew : (inv.ofKind table.kind).length ≤ listLimit) :
    (Gate.mk p false).listing scope inv table =
      ((Gate.mk p true).listing scope inv table).filter
        (passes ((Gate.mk p false).listFilter scope table)) := by
  by_cases hd : scope.deniesUnscopedCaller = true
  · rw [listing_eq, listing_eq, if_pos hd, if_pos hd]
    rfl
  · have hd := eq_false_of_ne_true hd
    rw [listing_of_few hd hfew, listing_of_few hd hfew, keep, keep, Inventory.admitted,
      Inventory.admitted, List.filter_filter, List.filter_filter, List.filter_filter]
    refine List.filter_congr fun r _ => ?_
    cases hpass : passes ((Gate.mk p false).listFilter scope table) r with
    | true => rw [passes_of_passes_labeled hpass, Bool.true_and, Bool.and_true]
    | false => rw [Bool.and_false, Bool.false_and, Bool.false_and]

theorem unscopedOnlyAdds_of_few (hfew : (inv.ofKind table.kind).length ≤ listLimit) :
    UnscopedOnlyAdds p scope inv table := by
  have hkept : (Gate.mk p false).listing scope inv table = _ := listing_labeled hfew
  refine ⟨?_, hkept, fun r hon hoff => ?_, fun hnone => ?_⟩
  · rw [hkept]
    exact List.filter_sublist
  · obtain ⟨-, hpass, -⟩ := of_mem_listing hon
    refine unlabeled_of_passes hpass fun hlabeled => hoff ?_
    rw [hkept]
    exact List.mem_filter.mpr ⟨hon, hlabeled⟩
  · unfold listing listAccessible
    rw [listFilter_of_no_tenant hnone, listFilter_of_no_tenant hnone]
    rfl

/-- **Stricter settings give less.** Under a policy that goes by the caller, strict tenancy grants
nothing that is not granted without it, and where there is a tenant or the caller is an
administrator it changes nothing at all. Over rows in memory, as many as a listing may hold,
including unlabelled rows adds such rows to a listing and takes none away. -/
theorem stricter_settings_give_less {p : Policy} (hpolicy : p.ByCaller) (scope : Scope) :
    (∀ listUnscoped,
      (Gate.mk p listUnscoped).GrantsNoMore (scope.withStrict true) (scope.withStrict false) ∧
      (scope.tenant.isSome = true ∨ scope.isAdmin = true →
        (Gate.mk p listUnscoped).SameAnswers (scope.withStrict true) (scope.withStrict false))) ∧
    ∀ (inv : Inventory) (table : Table), (inv.ofKind table.kind).length ≤ listLimit →
      UnscopedOnlyAdds p scope inv table :=
  ⟨fun _ => ⟨grantsNoMore_withStrict hpolicy scope, fun hrights =>
      sameAnswers_of_sameRights hpolicy (Scope.sameRights_withStrict hrights true false)⟩,
    fun _ _ hfew => unscopedOnlyAdds_of_few hfew⟩

/-- Strict tenancy keeps a caller without a tenant from a data source, and a caller with one notices
nothing of it; that one is listed the unlabelled data source if those are included. -/
theorem stricter_settings_give_less_sample :
    let p := Policy.byRole [.datasource]
    let caller := Principal.plain "ann" .standard
    let alone := Scope.of (.unresolved default) (some caller)
    let scope := Scope.of (.resolved ⟨"acme"⟩ .header default) (some caller)
    let r : Resource := .free ⟨.datasource, "10", some none⟩
    let ids (listUnscoped : Bool) := ((Gate.mk p listUnscoped).listing scope sampleDatasources
      .datasets).map fun r => r.item.id
    p.ByCaller ∧
      (Gate.mk p true).GrantsNoMore (alone.withStrict true) (alone.withStrict false) ∧
      ((Gate.mk p true).canAccess (alone.withStrict true) r : Logged Bool).value = false ∧
      ((Gate.mk p true).canAccess (alone.withStrict false) r : Logged Bool).value = true ∧
      scope.tenant.isSome = true ∧
      (Gate.mk p true).SameAnswers (scope.withStrict true) (scope.withStrict false) ∧
      (sampleDatasources.ofKind Table.datasets.kind).length ≤ listLimit ∧
      UnscopedOnlyAdds p scope sampleDatasources .datasets ∧
      ids false = ["10"] ∧ ids true = ["10", "11"] := by
  intro p caller alone scope r ids
  have hpolicy : p.ByCaller := Policy.byCaller_byRole [.datasource]
  have hfew : (sampleDatasources.ofKind Table.datasets.kind).length ≤ listLimit := by decide
  have halone := stricter_settings_give_less hpolicy alone
  have hscope := stricter_settings_give_less hpolicy scope
  exact ⟨hpolicy, (halone.1 true).1, rfl, rfl, rfl, (hscope.1 true).2 (.inl rfl), hfew,
    hscope.2 _ _ hfew, by decide, by decide⟩

end Gate

end Tenancy
