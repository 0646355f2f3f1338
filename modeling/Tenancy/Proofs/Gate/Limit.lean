import Tenancy.Proofs.Gate.Inventory

/-!
# What a listing leaves out

A listing is made in three steps: the filter, the limit, and the base policy. The policy is asked
about the rows that are left by the first two, so a row that it would allow can be missing although
few rows are listed: the limit was reached by rows that the policy refuses.

`missing_iff_behind_limit` says exactly which rows are missing, and when a listing from which
something is missing is as long as it can be. Of a policy that goes by the kind of a resource, as the
ones that come with the gate do, nothing else is to be feared: it refuses all rows of a listing or
none.
-/

set_option autoImplicit false

namespace Tenancy

/-- What is among the first that a test lets through has few such items in front of it. -/
theorem mem_take_filter_iff {α : Type} {p : α → Bool} {x : α} (hx : p x = true) {l : List α}
    {n : Nat} : x ∈ (l.filter p).take n ↔
      ∃ before after, l = before ++ x :: after ∧ (before.filter p).length < n := by
  induction l generalizing n with
  | nil => simp
  | cons y l ih =>
    cases n with
    | zero => simp
    | succ n =>
      by_cases hy : p y = true
      · rw [List.filter_cons_of_pos hy, List.take_succ_cons, List.mem_cons, ih]
        constructor
        · rintro (rfl | ⟨before, after, rfl, hlt⟩)
          · exact ⟨[], l, rfl, Nat.succ_pos n⟩
          · refine ⟨y :: before, after, rfl, ?_⟩
            rw [List.filter_cons_of_pos hy]
            exact Nat.succ_lt_succ hlt
        · rintro ⟨before, after, heq, hlt⟩
          cases before with
          | nil => exact .inl (List.cons.inj heq).1.symm
          | cons z before =>
            obtain ⟨rfl, rfl⟩ := List.cons.inj heq
            rw [List.filter_cons_of_pos hy] at hlt
            exact .inr ⟨before, after, rfl, Nat.lt_of_succ_lt_succ hlt⟩
      · rw [List.filter_cons_of_neg hy, ih]
        constructor
        · rintro ⟨before, after, rfl, hlt⟩
          refine ⟨y :: before, after, rfl, ?_⟩
          rwa [List.filter_cons_of_neg hy]
        · rintro ⟨before, after, heq, hlt⟩
          cases before with
          | nil => exact absurd ((List.cons.inj heq).1 ▸ hx) hy
          | cons z before =>
            obtain ⟨rfl, rfl⟩ := List.cons.inj heq
            rw [List.filter_cons_of_neg hy] at hlt
            exact ⟨before, after, rfl, hlt⟩

namespace Inventory

variable {inv : Inventory} {table : Table} {filter : Option Filter} {r : OwnedRow}

/-- The rows of a table that pass a filter, however many they are. -/
def admitted (inv : Inventory) (table : Table) (filter : Option Filter) : List OwnedRow :=
  (inv.ofKind table.kind).filter (passes filter)

theorem list_eq (inv : Inventory) (table : Table) (filter : Option Filter) :
    inv.list table filter = (inv.admitted table filter).take listLimit := rfl

theorem admitted_eq (inv : Inventory) (table : Table) (filter : Option Filter) :
    inv.admitted table filter =
      inv.rows.filter fun r => passes filter r && r.item.kind == table.kind := by
  unfold admitted ofKind
  rw [List.filter_filter]

/-- **An admitted row is listed if at some place where it stands the limit is not reached yet.** -/
theorem mem_list_iff (hr : r ∈ inv.ofKind table.kind) (hpass : passes filter r = true) :
    r ∈ inv.list table filter ↔ ∃ before after, inv.rows = before ++ r :: after ∧
      ((Inventory.mk before).admitted table filter).length < listLimit := by
  have hadmits : (passes filter r && r.item.kind == table.kind) = true := by
    rw [hpass, (List.mem_filter.mp hr).2]
    rfl
  simp only [list_eq, admitted_eq]
  exact mem_take_filter_iff (p := fun r => passes filter r && r.item.kind == table.kind) hadmits

end Inventory

/-- The policy tells resources of one kind apart by nothing. -/
def Policy.ByKind (p : Policy) : Prop := ∀ (scope : Scope) (r r' : Resource),
  r.item.kind = r'.item.kind → p.canAccess scope r = p.canAccess scope r'

theorem Policy.byKind_byRole (kinds : List Kind) : (byRole kinds).ByKind := by
  intro scope r r' hkind
  simp only [byRole, hkind]

example : Policy.allowAll.ByKind := by
  intro _ _ _ _
  rfl

namespace Gate

variable {gate : Gate} {scope : Scope} {inv : Inventory} {table : Table} {r : OwnedRow}

theorem listing_of_not_denied (hd : scope.deniesUnscopedCaller = false) :
    gate.listing scope inv table =
      gate.keep scope (inv.list table (gate.listFilter scope table)) := by
  rw [listing_eq, hd]
  rfl

theorem mem_listing_iff (hd : scope.deniesUnscopedCaller = false)
    (hcan : gate.policy.canAccess scope (resource r) = true) :
    r ∈ gate.listing scope inv table ↔ r ∈ inv.list table (gate.listFilter scope table) := by
  rw [listing_of_not_denied hd]
  exact List.mem_filter.trans (and_iff_left hcan)

/-- A listing is full if the limit is reached and the policy refuses none of the rows within it. -/
theorem length_listing_eq_limit_iff (hd : scope.deniesUnscopedCaller = false)
    (hmany : listLimit ≤ (inv.admitted table (gate.listFilter scope table)).length) :
    (gate.listing scope inv table).length = listLimit ↔
      ∀ x ∈ inv.list table (gate.listFilter scope table),
        gate.policy.canAccess scope (resource x) = true := by
  have hlength : (inv.list table (gate.listFilter scope table)).length = listLimit := by
    rw [Inventory.list_eq, List.length_take, Nat.min_eq_left hmany]
  rw [listing_of_not_denied hd, keep, ← hlength]
  exact List.length_filter_eq_length_iff

/-- **A row that the filter and the policy let through is missing from a listing exactly if wherever
it stands the limit was reached in front of it.** What is listed then is as much as the limit allows
exactly if the policy refuses none of the rows within the limit, and so it always is under a policy
that goes by the kind of a resource. -/
theorem missing_iff_behind_limit (hd : scope.deniesUnscopedCaller = false)
    (hr : r ∈ inv.ofKind table.kind) (hpass : passes (gate.listFilter scope table) r = true)
    (hcan : gate.policy.canAccess scope (resource r) = true) :
    (r ∉ gate.listing scope inv table ↔ ∀ before after, inv.rows = before ++ r :: after →
      listLimit ≤ ((Inventory.mk before).admitted table (gate.listFilter scope table)).length) ∧
    (r ∉ gate.listing scope inv table →
      ((gate.listing scope inv table).length = listLimit ↔
        ∀ x ∈ inv.list table (gate.listFilter scope table),
          gate.policy.canAccess scope (resource x) = true) ∧
      (gate.policy.ByKind → (gate.listing scope inv table).length = listLimit)) := by
  have hmissing : r ∉ gate.listing scope inv table ↔ _ :=
    not_congr ((mem_listing_iff hd hcan).trans (Inventory.mem_list_iff hr hpass))
  simp only [not_exists, not_and, Nat.not_lt] at hmissing
  refine ⟨hmissing, fun hout => ?_⟩
  -- the row stands somewhere, and what is admitted in front of it alone reaches the limit
  have hmany : listLimit ≤ (inv.admitted table (gate.listFilter scope table)).length := by
    obtain ⟨before, after, hrows⟩ := List.append_of_mem (List.mem_filter.mp hr).1
    have hfront := hmissing.mp hout before after hrows
    rw [Inventory.admitted_eq, hrows, List.filter_append, List.length_append]
    rw [Inventory.admitted_eq] at hfront
    exact Nat.le_add_right_of_le hfront
  have hfull := length_listing_eq_limit_iff hd hmany
  refine ⟨hfull, fun hkind => hfull.mpr fun x hx => ?_⟩
  have hx' := (List.mem_filter.mp (List.mem_of_mem_take hx)).1
  have hsame : x.item.kind = r.item.kind :=
    (eq_of_beq (List.mem_filter.mp hx').2).trans (eq_of_beq (List.mem_filter.mp hr).2).symm
  rw [← hcan]
  refine hkind scope (resource x) (resource r) ?_
  show (x.map Row.facet).item.kind = (r.map Row.facet).item.kind
  rw [Owned.item_map, Owned.item_map]
  exact hsame

/-! ## A row behind the limit -/

/-- Everyone may access what belongs to one tenant. -/
def onlyOf (t : TenantId) : Policy where
  canAccess _ r := r.item.label = some (some t)

/-- As many dashboards as a listing holds, none of them labelled. -/
def unlabeled : List OwnedRow :=
  (List.range listLimit).map fun n => .free ⟨.dashboard, toString n, none, true, .null⟩

/-- A dashboard with a label. -/
def wanted : OwnedRow := .free ⟨.dashboard, "wanted", some ⟨"acme"⟩, true, .null⟩

/-- The dashboard with a label, put in behind the others. -/
def crowded : Inventory := ⟨unlabeled ++ [wanted]⟩

/-- An administrator who acts for no tenant. -/
def operator : Scope := .of (.unresolved default) (some (.plain "root" .admin))

theorem wanted_mem_crowded : wanted ∈ crowded.ofKind Kind.dashboard :=
  List.mem_filter.mpr ⟨List.mem_append_right _ List.mem_cons_self, rfl⟩

theorem tenantId_of_mem_unlabeled {r : OwnedRow} (h : r ∈ unlabeled) : r.item.tenantId = none := by
  obtain ⟨n, -, rfl⟩ := List.mem_map.mp h
  rfl

theorem kind_of_mem_crowded {r : OwnedRow} (h : r ∈ crowded.rows) : r.item.kind = .dashboard := by
  rcases List.mem_append.mp h with h | h
  · obtain ⟨n, -, rfl⟩ := List.mem_map.mp h
    rfl
  · rw [List.mem_singleton.mp h]
    rfl

/-- No gate gets to see the last of the dashboards. -/
theorem listing_crowded (gate : Gate) :
    gate.listing operator crowded .dashboards = gate.keep operator unlabeled := by
  have hall : crowded.rows.filter
      (fun r => passes none r && r.item.kind == Table.dashboards.kind) = crowded.rows :=
    List.filter_eq_self.mpr fun r hr => beq_iff_eq.mpr (kind_of_mem_crowded hr)
  have hlength : unlabeled.length = listLimit := by
    rw [unlabeled, List.length_map, List.length_range]
  rw [listing_of_not_denied rfl, listFilter_of_no_tenant rfl, Inventory.list_eq,
    Inventory.admitted_eq, hall, crowded, List.take_left' hlength]

theorem wanted_not_mem_listing (gate : Gate) :
    wanted ∉ gate.listing operator crowded .dashboards := by
  rw [listing_crowded]
  intro h
  exact absurd (tenantId_of_mem_unlabeled (List.mem_filter.mp h).1) (by simp [wanted, Owned.item])

theorem keep_unlabeled_onlyOf (t : TenantId) (listUnscoped : Bool) :
    (Gate.mk (onlyOf t) listUnscoped).keep operator unlabeled = [] := by
  refine List.filter_eq_nil_iff.mpr fun r hr => ?_
  obtain ⟨n, -, rfl⟩ := List.mem_map.mp hr
  simp [onlyOf, resource, Owned.map, Owned.item, Row.facet]

/-- Under any policy that goes by the kind and allows dashboards, the last one is missing because a
thousand others are listed. -/
theorem missing_iff_behind_limit_sample :
    let gate : Gate := ⟨.byRole [.dashboard], false⟩
    let filter := gate.listFilter operator .dashboards
    operator.deniesUnscopedCaller = false ∧ wanted ∈ crowded.ofKind Kind.dashboard ∧
      passes filter wanted = true ∧ gate.policy.canAccess operator (resource wanted) = true ∧
      wanted ∉ gate.listing operator crowded .dashboards ∧ gate.policy.ByKind ∧
      (∀ before after, crowded.rows = before ++ wanted :: after →
        listLimit ≤ ((Inventory.mk before).admitted .dashboards filter).length) ∧
      (gate.listing operator crowded .dashboards).length = listLimit := by
  intro gate filter
  have hmissing := wanted_not_mem_listing gate
  have hkind : gate.policy.ByKind := Policy.byKind_byRole [.dashboard]
  have hmem : wanted ∈ crowded.ofKind Table.dashboards.kind := wanted_mem_crowded
  have hpass : passes (gate.listFilter operator .dashboards) wanted = true := rfl
  have hcan : gate.policy.canAccess operator (resource wanted) = true := rfl
  have h := missing_iff_behind_limit rfl hmem hpass hcan
  exact ⟨rfl, wanted_mem_crowded, rfl, rfl, hmissing, hkind, h.1.mp hmissing,
    (h.2 hmissing).2 hkind⟩

/-- **A row can be missing from a listing that lists nothing**: the policy allows the last of the
dashboards alone, and it is asked about the others. -/
theorem accessible_row_missing :
    let gate : Gate := ⟨onlyOf ⟨"acme"⟩, false⟩
    operator.deniesUnscopedCaller = false ∧ wanted ∈ crowded.ofKind Kind.dashboard ∧
      passes (gate.listFilter operator .dashboards) wanted = true ∧
      gate.policy.canAccess operator (resource wanted) = true ∧
      wanted ∉ gate.listing operator crowded .dashboards ∧
      (gate.listing operator crowded .dashboards).length < listLimit := by
  intro gate
  refine ⟨rfl, wanted_mem_crowded, rfl, rfl, wanted_not_mem_listing gate, ?_⟩
  rw [listing_crowded, keep_unlabeled_onlyOf]
  decide

end Gate

end Tenancy
