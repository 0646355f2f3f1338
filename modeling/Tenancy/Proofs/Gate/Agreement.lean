import Tenancy.Proofs.Gate.Inventory
import Tenancy.Proofs.Keyed

/-!
# Bulk listing and named access agree

A listing decides by the raw labels of a row and of its owner, the named check by what decisions see
of everything on the chain, and neither is written in terms of the other. On rows in memory the two
rules meet: whoever acts for a tenant lists exactly what it may read by name
(`listing_eq_filter_reading`), or the labelled part of that if unlabelled rows are left out of
listings.

What they need for it is `Inventory.WellFormed`: ids do not clash within a kind, nothing carries a
label that its table cannot store, and owners belong to nothing.
-/

set_option autoImplicit false

namespace Tenancy

/-- Rows as a database would hold them: no two of a kind share an id, what carries no labels has
none, and an owner belongs to nothing. -/
structure Inventory.WellFormed (inv : Inventory) : Prop where
  ids_nodup : ∀ kind, ((inv.ofKind kind).map fun r => r.item.id).Nodup
  labels : ∀ r ∈ inv.rows, ∀ x ∈ r.chain, x.labeled = false → x.tenantId = none
  owners : ∀ r ∈ inv.rows, ∀ o, r.owner? = some o → o.owner? = none

theorem Policy.raise_default (can : Scope → Resource → Bool)
    (narrow : Scope → Database → List String → List String) (scope : Scope) (r : Resource) :
    ({ canAccess := can, datasources := narrow } : Policy).raise scope r = .ok () ↔
      can scope r = true := by
  show (if can scope r then Except.ok () else Except.error (permissionError r)) = _ ↔ _
  cases can scope r <;> simp

/-! ## Looking up what is there -/

namespace Inventory

variable {inv : Inventory} {table : Table} {r : OwnedRow} {t : TenantId}

theorem WellFormed.get? (h : inv.WellFormed) (hr : r ∈ inv.ofKind table.kind) :
    inv.get? table r.item.id = some r :=
  find?_eq_some_of_nodup (h.ids_nodup table.kind) hr

theorem WellFormed.foreign_facet_iff (h : inv.WellFormed) (hr : r ∈ inv.rows) {x : Row}
    (hx : x ∈ r.chain) : x.facet.Foreign t ↔ ∃ l, x.tenantId = some l ∧ l ≠ t := by
  rw [Row.foreign_facet_iff]
  refine and_iff_right_of_imp ?_
  rintro ⟨l, hl, -⟩
  cases hlab : x.labeled with
  | true => rfl
  | false =>
    rw [h.labels r hr x hx hlab] at hl
    exact absurd hl (by simp)

/-- **The two rules meet**: the named check denies exactly what a filter that lets unlabelled rows
through leaves out. -/
theorem WellFormed.admitsRow_iff (h : inv.WellFormed) (hr : r ∈ inv.rows) {f : Filter}
    (hf : f.includeUnscoped = true) :
    f.admitsRow r = true ↔ ¬∃ x ∈ r.chain, x.facet.Foreign f.tenant := by
  have hlabel : ∀ l : Option TenantId,
      (l = some f.tenant ∨ l = none) ↔ ¬∃ l', l = some l' ∧ l' ≠ f.tenant := by
    intro l
    cases l <;> simp
  rw [Filter.admitsRow_iff, hf]
  have hitem : ∀ x ∈ r.chain, (x.tenantId = some f.tenant ∨ x.tenantId = none ↔
      ¬x.facet.Foreign f.tenant) := fun x hx => by
    rw [hlabel, h.foreign_facet_iff hr hx]
  cases r with
  | free x =>
    have hx := hitem x (by simp [Owned.chain])
    simpa [Owned.owner?, Owned.chain, Owned.item] using hx
  | under x o =>
    -- an owner belongs to nothing, so the chain ends with it
    obtain ⟨y, rfl⟩ : ∃ y, o = .free y := by
      cases o with
      | free y => exact ⟨y, rfl⟩
      | under y p => exact absurd (h.owners _ hr _ rfl) (by simp [Owned.owner?])
    have hx := hitem x (by simp [Owned.chain])
    have hy := hitem y (by simp [Owned.chain])
    simp only [Owned.owner?, Owned.chain, Owned.item, Option.some.injEq, forall_eq',
      List.mem_cons, List.not_mem_nil, or_false, exists_eq_or_imp, exists_eq_left, not_or, and_true]
    exact and_congr hx hy

end Inventory

/-! ## Listings and readings -/

namespace Gate

section Agreement

variable {can : Scope → Resource → Bool} {narrow : Scope → Database → List String → List String}
  {scope : Scope} {inv : Inventory} {table : Table} {t : TenantId} {r : OwnedRow}

/-- The gate over the policy that answers as `can` does and raises by default. -/
def overDefault (can : Scope → Resource → Bool)
    (narrow : Scope → Database → List String → List String) (listUnscoped : Bool) : Gate :=
  ⟨{ canAccess := can, datasources := narrow }, listUnscoped⟩

/-- A row is read by its id if it passes the filter for listings with unlabelled rows and the policy
allows it. Whether listings do include unlabelled rows makes no difference to readings. -/
theorem reading_eq_ok_iff_admits (column : String) (listUnscoped : Bool) (hwf : inv.WellFormed)
    (ht : scope.tenant = some t) (hr : r ∈ inv.ofKind table.kind) :
    (overDefault can narrow listUnscoped).reading scope inv table r.item.id = .ok r ↔
      Filter.admitsRow ⟨column, t, true, table.owner⟩ r = true ∧ can scope (resource r) = true := by
  have hmem : r ∈ inv.rows := (List.mem_filter.mp hr).1
  rw [reading_eq_ok_iff, hwf.get? hr, and_iff_right rfl, ne_eq, tenantCheck_eq_deny_iff ht,
    exists_foreign_resource_iff, hwf.admitsRow_iff hmem rfl]
  exact and_congr_right' (Policy.raise_default can narrow scope (resource r))

theorem listing_eq_filter {gate : Gate} (ht : scope.tenant = some t)
    (hfew : ((inv.ofKind table.kind).filter (passes (gate.listFilter scope table))).length
      ≤ listLimit) :
    gate.listing scope inv table = (inv.ofKind table.kind).filter fun r =>
      passes (gate.listFilter scope table) r && gate.policy.canAccess scope (resource r) := by
  rw [listing_eq, Scope.deniesUnscopedCaller_of_tenant ht]
  show gate.keep scope (inv.list table _) = _
  unfold Inventory.list
  rw [List.take_of_length_le hfew]
  unfold keep
  rw [List.filter_filter]
  refine List.filter_congr fun r _ => ?_
  rw [Bool.and_comm]

end Agreement

open Classical in
/-- **Whoever acts for a tenant lists what it may read by name.** If no more rows pass the filter
than a listing holds, then with unlabelled rows included the listing is the rows of the kind that
are read by their own id, each once and in the order they were put in; without them it is those of
these rows that carry the tenant's label. -/
theorem listing_eq_filter_reading {can : Scope → Resource → Bool}
    {narrow : Scope → Database → List String → List String} {scope : Scope} {inv : Inventory}
    {table : Table} {column : String} {t : TenantId} (hwf : inv.WellFormed)
    (hcolumn : table.tenantColumn = some column) (ht : scope.tenant = some t)
    (listUnscoped : Bool)
    (hfew : ((inv.ofKind table.kind).filter
      (passes ((overDefault can narrow listUnscoped).listFilter scope table))).length ≤ listLimit) :
    let gate := overDefault can narrow listUnscoped
    let readable := (inv.ofKind table.kind).filter fun r =>
      gate.reading scope inv table r.item.id = .ok r
    (gate.listing scope inv table).Nodup ∧
      gate.listing scope inv table =
        if listUnscoped then readable else readable.filter fun r => r.item.tenantId = some t := by
  intro gate readable
  have hnodup : (inv.ofKind table.kind).Nodup :=
    List.Pairwise.of_map _ (fun _ _ hne heq => hne (heq ▸ rfl)) (hwf.ids_nodup table.kind)
  have hlist := listing_eq_filter ht hfew
  refine ⟨hlist ▸ hnodup.filter _, ?_⟩
  have hfilter : gate.listFilter scope table = some ⟨column, t, listUnscoped, table.owner⟩ :=
    listFilter_of_tenant ht hcolumn
  rw [hlist, hfilter]
  cases listUnscoped with
  | true =>
    refine List.filter_congr fun r hr => ?_
    rw [Bool.eq_iff_iff, Bool.and_eq_true, decide_eq_true_iff]
    exact (reading_eq_ok_iff_admits column true hwf ht hr).symm
  | false =>
    show _ = List.filter _ (List.filter _ _)
    rw [List.filter_filter]
    refine List.filter_congr fun r hr => ?_
    rw [Bool.eq_iff_iff, Bool.and_eq_true, Bool.and_eq_true, decide_eq_true_iff,
      decide_eq_true_iff, reading_eq_ok_iff_admits column false hwf ht hr, ← and_assoc]
    refine and_congr_left' ?_
    -- the filter without unlabelled rows is the one with them, and the tenant's label on top
    show Filter.admitsRow _ r = true ↔ _
    rw [Filter.admitsRow_iff, Filter.admitsRow_iff]
    constructor
    · rintro ⟨hown | ⟨-, hf⟩, ho⟩
      · exact ⟨hown, .inl hown, ho⟩
      · exact absurd hf Bool.false_ne_true
    · rintro ⟨hown, -, ho⟩
      exact ⟨.inl hown, ho⟩

/-- Data sources of four sorts: the tenant's own, an unlabelled one, one that belongs to the
database of another tenant, and one that is another tenant's. -/
def sampleDatasources : Inventory :=
  let row (kind : Kind) (id : String) (label : Option String) : Row :=
    ⟨kind, id, label.map TenantId.mk, true, .null⟩
  let acme : OwnedRow := .free (row .database "1" (some "acme"))
  let globex : OwnedRow := .free (row .database "2" (some "globex"))
  ⟨[.under (row .datasource "10" (some "acme")) acme,
    .under (row .datasource "11" none) (.free (row .database "3" none)),
    .under (row .datasource "12" (some "acme")) globex,
    .under (row .datasource "13" (some "globex")) globex]⟩

theorem sampleDatasources_wellFormed : sampleDatasources.WellFormed where
  ids_nodup kind := by cases kind <;> decide
  labels := by decide
  owners := by
    intro r hr o ho
    simp only [sampleDatasources, List.mem_cons, List.not_mem_nil, or_false] at hr
    rcases hr with rfl | rfl | rfl | rfl <;>
      (obtain rfl := Option.some.inj ho; rfl)

open Classical in
/-- Among the sample, a tenant lists and reads its own data source and the unlabelled one. -/
theorem listing_eq_filter_reading_sample :
    let gate := overDefault (fun _ _ => true) (fun _ _ names => names) true
    let scope := Scope.of (.resolved ⟨"acme"⟩ .header default) none
    sampleDatasources.WellFormed ∧
      (gate.listing scope sampleDatasources .datasets).map (fun r => r.item.id) = ["10", "11"] ∧
      gate.listing scope sampleDatasources .datasets =
        (sampleDatasources.ofKind .datasource).filter fun r =>
          gate.reading scope sampleDatasources .datasets r.item.id = .ok r :=
  ⟨sampleDatasources_wellFormed, by decide,
    (listing_eq_filter_reading sampleDatasources_wellFormed rfl rfl true (by decide)).2⟩

end Gate

end Tenancy
