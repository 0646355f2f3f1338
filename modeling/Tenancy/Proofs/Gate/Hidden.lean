import Mathlib.Data.List.Forall2
import Tenancy.Proofs.Gate.Inventory

/-!
# What a tenant's caller cannot tell apart

A row that the tenant check denies is hidden from the caller: a listing is as it would be without
the row, and of a row that is asked for by its id nothing but its kind and its id comes out. So two
catalogs in memory that differ in hidden rows only are the same to the caller. For listings, the
visible rows are all that counts, however many others stand between them (`list_eq_of_visible`):
rows are counted behind the filter. For single rows, which of two rows is found first counts as well,
so there hidden rows have to stand in for hidden rows of the same kind and id (`Alike`).

The filter of a listing looks at a row's label and at its owner's, and the check at everything the
row belongs to. Rows are therefore taken to have owners without owners of their own, as rows of the
protected tables do.
-/

set_option autoImplicit false

namespace Tenancy

/-! ## Hidden rows -/

/-- Whether the tenant check denies a row, whose owner belongs to nothing itself. -/
def isHidden (scope : Scope) (r : OwnedRow) : Bool :=
  tenantCheck scope (resource r) = .deny && r.owner?.all fun o => o.owner?.isNone

/-- The rows that are not hidden. -/
def visible (scope : Scope) (rows : List OwnedRow) : List OwnedRow :=
  rows.filter fun r => !isHidden scope r

/-- Two rows that can stand for each other: the same row, or hidden ones of one kind and id. -/
inductive Alike (scope : Scope) : OwnedRow → OwnedRow → Prop where
  | same (r : OwnedRow) : Alike scope r r
  | hidden {a b : OwnedRow} (ha : isHidden scope a = true) (hb : isHidden scope b = true)
      (kind : a.item.kind = b.item.kind) (id : a.item.id = b.item.id) : Alike scope a b

/-- Rows in the order in which they were put in. -/
def Inventory.filled (rows : List OwnedRow) : Inventory := rows.foldl Inventory.insert .empty

theorem Inventory.filled_eq (rows : List OwnedRow) : filled rows = ⟨rows⟩ := by
  have hfoldl : ∀ inv : Inventory, rows.foldl Inventory.insert inv = ⟨inv.rows ++ rows⟩ := by
    induction rows with
    | nil => exact fun inv => congrArg Inventory.mk (List.append_nil _).symm
    | cons r rows ih =>
      intro inv
      rw [List.foldl_cons, ih]
      exact congrArg Inventory.mk (List.append_assoc ..)
  exact hfoldl .empty

section Hidden

variable {scope : Scope} {t : TenantId}

/-- A hidden row, or what it belongs to, is labelled with another tenant. -/
theorem exists_label_of_isHidden {r : OwnedRow} (ht : scope.tenant = some t)
    (h : isHidden scope r = true) :
    (∃ l, r.item.tenantId = some l ∧ l ≠ t) ∨
      ∃ o l, r.owner? = some o ∧ o.item.tenantId = some l ∧ l ≠ t := by
  obtain ⟨hdenied, hshallow⟩ := Bool.and_eq_true_iff.mp h
  obtain ⟨x, hx, hforeign⟩ := exists_foreign_resource_iff.mp
    ((tenantCheck_eq_deny_iff ht _).mp (of_decide_eq_true hdenied))
  obtain ⟨-, hlabel⟩ := Row.foreign_facet_iff.mp hforeign
  cases r with
  | free a =>
    obtain rfl := List.mem_singleton.mp hx
    exact .inl hlabel
  | under a o =>
    cases o with
    | free b =>
      rcases List.mem_cons.mp hx with rfl | hx
      · exact .inl hlabel
      · obtain rfl := List.mem_singleton.mp hx
        exact .inr ⟨.free x, _, rfl, hlabel.choose_spec⟩
    | under b p => cases hshallow

/-- **No hidden row passes the filter of a listing.** -/
theorem not_passes_of_isHidden {gate : Gate} {table : Table} {column : String} {r : OwnedRow}
    (ht : scope.tenant = some t) (hcolumn : table.tenantColumn = some column)
    (h : isHidden scope r = true) : passes (gate.listFilter scope table) r = false := by
  rw [Gate.listFilter_of_tenant ht hcolumn]
  refine Bool.eq_false_iff.mpr fun hpasses => ?_
  obtain ⟨hown, howner⟩ := Filter.admitsRow_iff.mp (hpasses :
    (⟨column, t, gate.listUnscoped, table.owner⟩ : Filter).admitsRow r = true)
  rcases exists_label_of_isHidden ht h with ⟨l, hl, hne⟩ | ⟨o, l, ho, hl, hne⟩
  · rcases hown with hsame | ⟨hnone, -⟩
    · exact hne (Option.some.inj (hl.symm.trans hsame))
    · exact absurd (hl.symm.trans hnone) (by simp)
  · rcases howner o ho with hsame | hnone
    · exact hne (Option.some.inj (hl.symm.trans hsame))
    · exact absurd (hl.symm.trans hnone) (by simp)

end Hidden

/-! ## Listings -/

section Listings

variable {gate : Gate} {scope : Scope} {t : TenantId} {table : Table}

/-- A listing is what it would be if there were no hidden rows. -/
theorem list_visible {column : String} (ht : scope.tenant = some t)
    (hcolumn : table.tenantColumn = some column) (rows : List OwnedRow) :
    (Inventory.mk rows).list table (gate.listFilter scope table) =
      (Inventory.mk (visible scope rows)).list table (gate.listFilter scope table) := by
  unfold Inventory.list Inventory.ofKind visible
  rw [List.filter_filter, List.filter_filter, List.filter_filter]
  refine congrArg (List.take listLimit) (List.filter_congr fun r _ => ?_)
  cases hhidden : isHidden scope r with
  | false => simp
  | true => simp [not_passes_of_isHidden ht hcolumn hhidden]

/-- **Where the visible rows are the same, so are the listings.** -/
theorem listAccessible_eq_of_visible {m : Type → Type} [Monad m] {column : String}
    (ht : scope.tenant = some t) (hcolumn : table.tenantColumn = some column)
    {rows rows' : List OwnedRow} (h : visible scope rows = visible scope rows') :
    (gate.listAccessible scope (Inventory.filled rows).catalog table : m (List OwnedRow)) =
      gate.listAccessible scope (Inventory.filled rows').catalog table := by
  have hlist : (Inventory.filled rows).list table (gate.listFilter scope table) =
      (Inventory.filled rows').list table (gate.listFilter scope table) := by
    rw [Inventory.filled_eq, Inventory.filled_eq, list_visible ht hcolumn, h,
      ← list_visible ht hcolumn]
  unfold Gate.listAccessible Inventory.catalog
  simp only [hlist]

end Listings

/-! ## Rows that stand for each other -/

section Alike

variable {scope : Scope} {rows rows' : List OwnedRow}

theorem Alike.kind_eq {a b : OwnedRow} (h : Alike scope a b) : a.item.kind = b.item.kind := by
  cases h with
  | same => rfl
  | hidden _ _ hkind _ => exact hkind

theorem Alike.id_eq {a b : OwnedRow} (h : Alike scope a b) : a.item.id = b.item.id := by
  cases h with
  | same => rfl
  | hidden _ _ _ hid => exact hid

/-- Rows that stand for each other leave the same rows visible. -/
theorem visible_eq_of_alike (h : List.Forall₂ (Alike scope) rows rows') :
    visible scope rows = visible scope rows' := by
  induction h with
  | nil => rfl
  | cons hab _ ih =>
    unfold visible at ih ⊢
    cases hab with
    | same => rw [List.filter_cons, List.filter_cons, ih]
    | hidden ha hb =>
      rw [List.filter_cons_of_neg (by simp [ha]), List.filter_cons_of_neg (by simp [hb]), ih]

/-- What is found by an id in one catalog stands for what is found in the other. -/
theorem get?_alike (h : List.Forall₂ (Alike scope) rows rows') (table : Table) (id : String) :
    Option.Rel (Alike scope) ((Inventory.filled rows).get? table id)
      ((Inventory.filled rows').get? table id) := by
  rw [Inventory.filled_eq, Inventory.filled_eq]
  unfold Inventory.get? Inventory.ofKind
  rw [List.find?_filter, List.find?_filter]
  induction h with
  | nil => exact .none
  | @cons a b _ _ hab _ ih =>
    rw [List.find?_cons, List.find?_cons, hab.kind_eq, hab.id_eq]
    cases decide ((b.item.kind == table.kind) = true ∧ (b.item.id == id) = true) with
    | false => exact ih
    | true => exact .some hab

end Alike

namespace Gate

variable {gate : Gate} {scope : Scope} {rows rows' : List OwnedRow}

/-- A denial says no more of a row than its kind and its id. -/
theorem outcome_eq_of_alike {a b : OwnedRow} (h : Alike scope a b) :
    gate.outcome scope a = gate.outcome scope b := by
  cases h with
  | same => rfl
  | hidden ha hb hkind hid =>
    have hdenied : ∀ r, isHidden scope r = true → tenantCheck scope (resource r) = .deny :=
      fun r hr => of_decide_eq_true (Bool.and_eq_true_iff.mp hr).1
    simp only [outcome, hdenied a ha, hdenied b hb, hkind, hid]

/-- **Where rows stand for each other, so does what comes of asking for one.** -/
theorem run_getAccessible_eq_of_alike (h : List.Forall₂ (Alike scope) rows rows') (table : Table)
    (id : String) :
    (gate.getAccessible scope (Inventory.filled rows).catalog table id :
        ExceptT Error Logged OwnedRow).run =
      (gate.getAccessible scope (Inventory.filled rows').catalog table id :
        ExceptT Error Logged OwnedRow).run := by
  have hfound := get?_alike h table id
  rw [run_getAccessible, run_getAccessible]
  generalize (Inventory.filled rows).get? table id = found at hfound ⊢
  generalize (Inventory.filled rows').get? table id = found' at hfound ⊢
  cases hfound with
  | none => rfl
  | some hab => exact outcome_eq_of_alike hab

end Gate

end Tenancy
