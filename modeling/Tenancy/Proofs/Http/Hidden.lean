import Tenancy.Proofs.Gate.Hidden
import Tenancy.Proofs.Http.Resources

/-!
# Hidden rows over HTTP

A service answers a tenant's caller the same whatever rows are hidden from the caller. The rows are
reached through the gate only, by the two routes of resources, and what the gate gives is the same
(`listAccessible_eq_of_visible`, `run_getAccessible_eq_of_alike`); no other endpoint looks at them,
and neither do the layers, so the scope of a request does not depend on them. The main statement puts
the gate and the service together (`hidden_rows_unseen`).
-/

set_option autoImplicit false

namespace Tenancy

/-! ## The gate -/

/-- What a caller is given of two catalogs in memory is the same, in bulk and one by one, failures
and events included. -/
structure Gate.Agrees (gate : Gate) (scope : Scope) (inv inv' : Inventory) : Prop where
  listed : ∀ table ∈ Table.all,
    (gate.listAccessible scope inv.catalog table : Logged (List OwnedRow)) =
      gate.listAccessible scope inv'.catalog table
  read : ∀ table ∈ Table.all, ∀ id,
    (gate.getAccessible scope inv.catalog table id : ExceptT Error Logged OwnedRow).run =
      (gate.getAccessible scope inv'.catalog table id : ExceptT Error Logged OwnedRow).run

theorem Table.tenantColumn_of_mem_all {table : Table} (h : table ∈ Table.all) :
    table.tenantColumn = some labelColumn := by
  simp only [all, List.mem_cons, List.not_mem_nil, or_false] at h
  rcases h with rfl | rfl | rfl | rfl | rfl <;> rfl

namespace Http.Service

/-! ## The service -/

/-- The service with other rows. -/
def holding (s : Service) (rows : List OwnedRow) : Service := { s with inventory := .filled rows }

section Holding

variable {s : Service} {now : Instant} {st : State} {r : Request} {t : TenantId}
  {rows rows' : List OwnedRow}

theorem listing_holding (ht : s.effectiveTenant now st r = some t)
    (h : List.Forall₂ (Alike (s.scopeOf now st r)) rows rows') (kind : Kind) :
    (s.holding rows).gate.listing ((s.holding rows).scopeOf now st r) (s.holding rows).inventory
        (.ofKind kind) =
      (s.holding rows').gate.listing ((s.holding rows').scopeOf now st r)
        (s.holding rows').inventory (.ofKind kind) :=
  congrArg Id.run (listAccessible_eq_of_visible ((s.scopeOf_tenant now st r).trans ht)
    (Table.ofKind_tenantColumn kind) (visible_eq_of_alike h))

theorem reading_holding (h : List.Forall₂ (Alike (s.scopeOf now st r)) rows rows') (kind : Kind)
    (id : String) :
    (s.holding rows).gate.reading ((s.holding rows).scopeOf now st r) (s.holding rows).inventory
        (.ofKind kind) id =
      (s.holding rows').gate.reading ((s.holding rows').scopeOf now st r)
        (s.holding rows').inventory (.ofKind kind) id :=
  congrArg Logged.value (Gate.run_getAccessible_eq_of_alike h (.ofKind kind) id)

/-- No endpoint answers differently. Only the two routes of resources look at rows at all. -/
theorem outcome_handle_holding (ht : s.effectiveTenant now st r = some t)
    (h : List.Forall₂ (Alike (s.scopeOf now st r)) rows rows') (e : Endpoint) (st' : State) :
    Handler.outcome ((s.holding rows).handle now e ((s.holding rows).prepared now st r)) st' =
      Handler.outcome ((s.holding rows').handle now e ((s.holding rows').prepared now st r)) st' := by
  cases e with
  | listResources raw =>
    unfold handle listResources
    simp only [Handler.outcome_bind, outcome_scope, outcome_parameter]
    cases Text.Percent.decodeText raw with
    | error _ => rfl
    | ok cs =>
      simp only [outcome_tableOf]
      cases Kind.ofSegment? (String.ofList cs) with
      | none => rfl
      | some kind => simp only [outcome_listAccessible, listing_holding ht h, Handler.outcome_note]
  | readResource rawKind rawId =>
    unfold handle readResource
    simp only [Handler.outcome_bind, outcome_scope, outcome_parameter]
    cases Text.Percent.decodeText rawKind with
    | error _ => rfl
    | ok cs =>
      cases Text.Percent.decodeText rawId with
      | error _ => rfl
      | ok ds =>
        simp only [outcome_tableOf]
        cases Kind.ofSegment? (String.ofList cs) with
        | none => rfl
        | some kind => simp only [outcome_getAccessible, reading_holding h]
  | _ => rfl

/-- **A service answers the same whatever is hidden.** -/
theorem answer_holding (ht : s.effectiveTenant now st r = some t)
    (h : List.Forall₂ (Alike (s.scopeOf now st r)) rows rows') :
    (s.holding rows).answer now st r = (s.holding rows').answer now st r := by
  unfold answer respond respondThrough
  cases Route.ofPath? r.target.path with
  | none => rfl
  | some route =>
    dsimp only
    cases route.endpoint? r.method with
    | none => rfl
    | some e =>
      have hlayers : Step.outcome ((s.holding rows).layers now
            (fun r => settle ((s.holding rows).handle now e r)) r) st =
          Step.outcome ((s.holding rows').layers now
            (fun r => settle ((s.holding rows').handle now e r)) r) st := by
        rw [outcome_layers, outcome_layers, Step.outcome_settle, Step.outcome_settle]
        show (if tooLong r then _ else _) = if tooLong r then _ else _
        rw [outcome_handle_holding ht h e]
        rfl
      simp only [Step.outcome_bind, hlayers]

end Holding

/-- **What is hidden from a tenant's caller makes no difference to the caller**, whatever the base
policy is: neither which hidden rows stand where others of the same kind and id could stand, be it
for the gate or over HTTP, nor, for listings, where hidden rows stand at all. -/
theorem hidden_rows_unseen :
    (∀ (gate : Gate) (scope : Scope) (t : TenantId), scope.tenant = some t →
      (∀ rows rows', List.Forall₂ (Alike scope) rows rows' →
        gate.Agrees scope (.filled rows) (.filled rows')) ∧
      ∀ rows rows', visible scope rows = visible scope rows' → ∀ table ∈ Table.all,
        (gate.listAccessible scope (Inventory.filled rows).catalog table :
            Logged (List OwnedRow)) =
          gate.listAccessible scope (Inventory.filled rows').catalog table) ∧
    ∀ (s : Service) (now : Instant) (st : State) (r : Request) (t : TenantId),
      s.effectiveTenant now st r = some t →
      ∀ rows rows', List.Forall₂ (Alike (s.scopeOf now st r)) rows rows' →
        (s.holding rows).answer now st r = (s.holding rows').answer now st r := by
  refine ⟨fun gate scope t ht => ?_, fun s now st r t ht rows rows' h => answer_holding ht h⟩
  have hlisted : ∀ rows rows', visible scope rows = visible scope rows' → ∀ table ∈ Table.all,
      (gate.listAccessible scope (Inventory.filled rows).catalog table : Logged (List OwnedRow)) =
        gate.listAccessible scope (Inventory.filled rows').catalog table :=
    fun rows rows' h table htable =>
      listAccessible_eq_of_visible ht (Table.tenantColumn_of_mem_all htable) h
  refine ⟨fun rows rows' h => ⟨hlisted rows rows' (visible_eq_of_alike h), ?_⟩, hlisted⟩
  exact fun table _ id => Gate.run_getAccessible_eq_of_alike h table id

/-- A dashboard of one tenant in front of one of another, which holds the given data. -/
def dashboardsWith (label : String) (data : Json) : List OwnedRow :=
  [.free ⟨.dashboard, "1", some ⟨"acme"⟩, true, .null⟩,
    .free ⟨.dashboard, "2", some ⟨label⟩, true, data⟩]

/-- A caller of the first tenant who asks for the other dashboard is refused, in the same words. -/
theorem hidden_rows_unseen_sample :
    let r : Request := ⟨"GET", .ofChars "/resources/dashboards/2".toList, [("X-Tenant-ID", "acme")],
      "", none, none, 0⟩
    let rows := dashboardsWith "globex" .null
    let rows' := dashboardsWith "initech" (.text "other")
    let scope := sampleService.scopeOf default sampleState r
    sampleService.effectiveTenant default sampleState r = some ⟨"acme"⟩ ∧
      List.Forall₂ (Alike scope) rows rows' ∧
      visible scope rows = visible scope rows'.reverse ∧
      sampleService.gate.Agrees scope (.filled rows) (.filled rows') ∧
      (∀ table ∈ Table.all,
        (sampleService.gate.listAccessible scope (Inventory.filled rows).catalog table :
            Logged (List OwnedRow)) =
          sampleService.gate.listAccessible scope (Inventory.filled rows'.reverse).catalog table) ∧
      ((sampleService.holding rows).answer default sampleState r).status = 403 ∧
      (sampleService.holding rows).answer default sampleState r =
        (sampleService.holding rows').answer default sampleState r := by
  intro r rows rows' scope
  have ht : sampleService.effectiveTenant default sampleState r = some ⟨"acme"⟩ := by decide
  have halike : List.Forall₂ (Alike scope) rows rows' :=
    .cons (.same _) (.cons (.hidden (by decide) (by decide) rfl rfl) .nil)
  have hvisible : visible scope rows = visible scope rows'.reverse := rfl
  obtain ⟨hgate, hservice⟩ := hidden_rows_unseen
  exact ⟨ht, halike, hvisible, (hgate _ scope _ ht).1 _ _ halike,
    (hgate _ scope _ ht).2 _ _ hvisible, by decide, hservice _ _ _ _ _ ht _ _ halike⟩

end Http.Service

end Tenancy
