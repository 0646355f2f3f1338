import Tenancy.Proofs.Gate.Isolation
import Tenancy.Proofs.Http.Answer

/-!
# Who sees which resources over HTTP

Between a request and the rows in its answer stand the layers, the scope, impersonation, strictness,
and two rules about labels, one for listings and one for single rows. `answer_listResources` and
`answer_readResource` put them together: the answer is the gate's listing or reading for the scope
of the request. What a tenant's callers, callers without a tenant, and administrators get to see
then follows from what the gate decides (`resources_isolated`).
-/

set_option autoImplicit false

namespace Tenancy.Http.Service

variable (s : Service) (now : Instant) (st : State) (r : Request)

/-! ## The answers of the two routes -/

/-- The kind that a segment of a path asks for, if it is read and known. -/
def kindAsked (raw : List Char) : Option Kind :=
  match Text.Percent.decodeText raw with
  | .ok cs => Kind.ofSegment? (String.ofList cs)
  | .error _ => none

/-- The answer to a request for one resource, by what came of reading it. -/
def readAnswer : Except Error OwnedRow → Response
  | .ok row => .one 200 row.item.toJson
  | .error e => .ofError e

theorem ofError_status_ne (e : Error) : (Response.ofError e).status ≠ 200 := by
  show (Response.statusOf e).1 ≠ 200
  cases e with
  | database cause => cases cause <;> simp [Response.statusOf]
  | _ => simp [Response.statusOf]

theorem outcome_parameter (name : String) (raw : List Char) :
    Handler.outcome (parameter name raw) st =
      (match Text.Percent.decodeText raw with
        | .ok cs => .ok (String.ofList cs)
        | .error _ => .error (.text 400 ("Invalid URL: Invalid UTF-8 in `" ++ name ++ "`")), st) := by
  unfold parameter
  cases Text.Percent.decodeText raw <;> rfl

theorem outcome_tableOf (segment : String) :
    Handler.outcome (tableOf segment) st =
      (match Kind.ofSegment? segment with
        | some kind => .ok (.ofKind kind)
        | none => .error (.ofError (.notFound ("unknown resource kind: " ++ segment))), st) := by
  unfold tableOf
  cases Kind.ofSegment? segment <;> rfl

theorem outcome_listAccessible (scope : Scope) (table : Table) :
    Handler.outcome (attempt (s.gate.listAccessible scope s.inventory.catalog table)) st =
      (.ok (s.gate.listing scope s.inventory table), st) := by
  rw [Gate.listAccessible_inventory, Handler.outcome_attempt]
  rfl

theorem outcome_getAccessible (scope : Scope) (table : Table) (id : String) :
    Handler.outcome (attempt (s.gate.getAccessible scope s.inventory.catalog table id)) st =
      ((s.gate.reading scope s.inventory table id).mapError Response.ofError, st) := by
  have hrun : Step.outcome
      (s.gate.getAccessible scope s.inventory.catalog table id : ExceptT Error Step OwnedRow).run st
        = (s.gate.reading scope s.inventory table id, st) := by
    unfold Gate.reading Gate.getAccessible Inventory.catalog
    rw [pure_bind, pure_bind]
    cases s.inventory.get? table id with
    | none => rfl
    | some row =>
      simp only [Gate.raise]
      cases tenantCheck scope (resource row) with
      | deny => rfl
      | allow => cases s.gate.policy.raise scope (resource row) <;> rfl
      | notApplicable => cases s.gate.policy.raise scope (resource row) <;> rfl
  rw [Handler.outcome_attempt, hrun]

section Answers

variable {s now st r} {raw rawKind rawId : List Char}

/-- **The listing route answers with the gate's listing** for the scope of the request, whichever
rows those are; asking for a kind that is not known is no success. -/
theorem answer_listResources (hget : r.method = "GET")
    (hroute : Route.ofPath? r.target.path = some (.resources raw)) (hshort : tooLong r = false) :
    (∀ kind, kindAsked raw = some kind → s.answer now st r =
      .many ((s.gate.listing (s.scopeOf now st r) s.inventory (.ofKind kind)).map
        fun row => row.item.toJson)) ∧
    (kindAsked raw = none → (s.answer now st r).status ≠ 200) := by
  have hanswer := s.answer_get now st r hget hroute
    (show Route.endpoint? (.resources raw) "GET" = some (.listResources raw) from rfl)
  rw [hshort, if_neg Bool.false_ne_true] at hanswer
  rw [hanswer]
  unfold handle listResources kindAsked
  simp only [Handler.outcome_bind, outcome_scope, outcome_parameter]
  cases Text.Percent.decodeText raw with
  | error _ => exact ⟨fun kind h => absurd h (by simp), fun _ => by simp [Response.text]⟩
  | ok cs =>
    simp only [outcome_tableOf]
    cases hkind : Kind.ofSegment? (String.ofList cs) with
    | none => exact ⟨fun kind h => absurd h (by simp), fun _ => ofError_status_ne _⟩
    | some kind =>
      simp only [outcome_listAccessible, Handler.outcome_note, Handler.outcome_pure]
      refine ⟨fun kind' h => ?_, fun h => absurd h (by simp)⟩
      rw [Option.some.inj h]

/-- **The route of single resources answers with the gate's reading** for the scope of the request;
a kind that is not known, and an id that cannot be read, are no success. -/
theorem answer_readResource (hget : r.method = "GET")
    (hroute : Route.ofPath? r.target.path = some (.resource rawKind rawId))
    (hshort : tooLong r = false) :
    (∀ kind id, kindAsked rawKind = some kind → Text.Percent.decodeText rawId = .ok id →
      s.answer now st r = readAnswer
        (s.gate.reading (s.scopeOf now st r) s.inventory (.ofKind kind) (String.ofList id))) ∧
    ((∀ kind id, kindAsked rawKind = some kind → Text.Percent.decodeText rawId ≠ .ok id) →
      (s.answer now st r).status ≠ 200) := by
  have hanswer := s.answer_get now st r hget hroute
    (show Route.endpoint? (.resource rawKind rawId) "GET" = some (.readResource rawKind rawId)
      from rfl)
  rw [hshort, if_neg Bool.false_ne_true] at hanswer
  rw [hanswer]
  unfold handle readResource kindAsked
  -- both segments are decoded before the kind is looked up, so the cases come in this order
  simp only [Handler.outcome_bind, outcome_scope, outcome_parameter]
  cases Text.Percent.decodeText rawKind with
  | error _ => exact ⟨fun kind id h => absurd h (by simp), fun _ => by simp [Response.text]⟩
  | ok cs =>
    cases Text.Percent.decodeText rawId with
    | error _ => exact ⟨fun kind id _ h => absurd h (by simp), fun _ => by simp [Response.text]⟩
    | ok ds =>
      simp only [outcome_tableOf]
      cases hkind : Kind.ofSegment? (String.ofList cs) with
      | none => exact ⟨fun kind id h => absurd h (by simp), fun _ => ofError_status_ne _⟩
      | some kind =>
        simp only [outcome_getAccessible]
        refine ⟨fun kind' id h hid => ?_, fun h => absurd rfl (h kind ds rfl)⟩
        rw [← Option.some.inj h, ← Except.ok.inj hid]
        cases s.gate.reading (s.scopeOf now st r) s.inventory (.ofKind kind) (String.ofList ds) <;>
          rfl

theorem exists_reading_of_status (hget : r.method = "GET")
    (hroute : Route.ofPath? r.target.path = some (.resource rawKind rawId))
    (hshort : tooLong r = false) (hok : (s.answer now st r).status = 200) :
    ∃ kind id row, s.gate.reading (s.scopeOf now st r) s.inventory (.ofKind kind) id = .ok row ∧
      s.answer now st r = .one 200 row.item.toJson := by
  obtain ⟨hknown, hunknown⟩ := answer_readResource hget hroute hshort (s := s)
  cases hkind : kindAsked rawKind with
  | none => exact absurd hok (hunknown fun kind id h => absurd (hkind.symm.trans h) (by simp))
  | some kind =>
    cases hid : Text.Percent.decodeText rawId with
    | error _ => exact absurd hok (hunknown fun kind id _ h => absurd (hid.symm.trans h) (by simp))
    | ok id =>
      have hanswer := hknown kind id hkind hid
      cases hread : s.gate.reading (s.scopeOf now st r) s.inventory (.ofKind kind)
          (String.ofList id) with
      | ok row =>
        rw [hread] at hanswer
        exact ⟨kind, _, row, hread, hanswer⟩
      | error e =>
        rw [hread] at hanswer
        rw [hanswer] at hok
        exact absurd hok (ofError_status_ne e)

end Answers

/-! ## Isolation -/

/-- What a listing of resources gives away, for the kind that a segment of the path asks for.

Unless the request declares too long a body, which is refused whatever it asks for: a caller who
acts for a tenant sees rows that are fit to be shown; a caller without a tenant who is refused sees
none; and for any other caller without a tenant the base policy alone decides. -/
structure ListsIsolated (raw : List Char) : Prop where
  tenant : ∀ t, s.effectiveTenant now st r = some t → (s.answer now st r).status = 200 →
    ∃ rows : List OwnedRow, s.answer now st r = .many (rows.map fun row => row.item.toJson) ∧
      ∀ row ∈ rows, row ∈ s.inventory.rows ∧ Isolated t s.settings.listUnscoped row
  refused : s.effectiveTenant now st r = none → s.settings.strict = true →
    r.principal.any Principal.isAdmin = false → tooLong r = false →
    ∀ kind, kindAsked raw = some kind → s.answer now st r = .many []
  unrestricted : s.effectiveTenant now st r = none →
    (s.settings.strict = false ∨ r.principal.any Principal.isAdmin = true) → tooLong r = false →
    ∀ kind, kindAsked raw = some kind → s.answer now st r =
      .many ((((s.inventory.ofKind kind).take listLimit).filter fun row =>
        s.policy.canAccess (s.scopeOf now st r) (resource row)).map fun row => row.item.toJson)
  overlong : tooLong r = true → s.answer now st r = lengthRefusal

/-- What a request for one resource gives away; the cases are those of `ListsIsolated`. -/
structure ReadsIsolated (rawKind rawId : List Char) : Prop where
  tenant : ∀ t, s.effectiveTenant now st r = some t → (s.answer now st r).status = 200 →
    ∃ row ∈ s.inventory.rows, s.answer now st r = .one 200 row.item.toJson ∧ Isolated t true row
  refused : s.effectiveTenant now st r = none → s.settings.strict = true →
    r.principal.any Principal.isAdmin = false → (s.answer now st r).status ≠ 200
  unrestricted : s.effectiveTenant now st r = none →
    (s.settings.strict = false ∨ r.principal.any Principal.isAdmin = true) → tooLong r = false →
    ∀ kind id, kindAsked rawKind = some kind → Text.Percent.decodeText rawId = .ok id →
      s.answer now st r = readAnswer
        (match s.inventory.get? (.ofKind kind) (String.ofList id) with
          | none => .error (.resourceNotFound kind (String.ofList id))
          | some row => (s.policy.raise (s.scopeOf now st r) (resource row)).map fun _ => row)
  overlong : tooLong r = true → s.answer now st r = lengthRefusal

section Isolation

variable {s now st r} {raw rawKind rawId : List Char}

theorem scopeOf_deniesUnscopedCaller :
    (s.scopeOf now st r).deniesUnscopedCaller = true ↔ s.settings.strict = true ∧
      s.effectiveTenant now st r = none ∧ r.principal.any Principal.isAdmin = false := by
  rw [Scope.deniesUnscopedCaller_iff, scopeOf_strict, scopeOf_tenant, scopeOf_isAdmin]

theorem scopeOf_not_denied
    (h : s.settings.strict = false ∨ r.principal.any Principal.isAdmin = true) :
    (s.scopeOf now st r).deniesUnscopedCaller = false := by
  rw [Bool.eq_false_iff]
  intro hd
  obtain ⟨hstrict, -, hadmin⟩ := scopeOf_deniesUnscopedCaller.mp hd
  rcases h with h | h
  · exact absurd hstrict (by simp [h])
  · exact absurd hadmin (by simp [h])

theorem answer_of_tooLong {route : Route} {e : Endpoint} (hget : r.method = "GET")
    (hroute : Route.ofPath? r.target.path = some route) (he : route.endpoint? "GET" = some e)
    (hlong : tooLong r = true) : s.answer now st r = lengthRefusal := by
  rw [s.answer_get now st r hget hroute he, if_pos hlong]

theorem not_tooLong_of_status {route : Route} {e : Endpoint} (hget : r.method = "GET")
    (hroute : Route.ofPath? r.target.path = some route) (he : route.endpoint? "GET" = some e)
    (hok : (s.answer now st r).status = 200) : tooLong r = false := by
  rw [Bool.eq_false_iff]
  intro hlong
  rw [answer_of_tooLong hget hroute he hlong] at hok
  exact absurd hok (by decide)

theorem listsIsolated (hget : r.method = "GET")
    (hroute : Route.ofPath? r.target.path = some (.resources raw)) :
    s.ListsIsolated now st r raw where
  tenant t ht hok := by
    have hshort := not_tooLong_of_status hget hroute rfl hok
    obtain ⟨hknown, hunknown⟩ := answer_listResources hget hroute hshort (s := s)
    cases hkind : kindAsked raw with
    | none => exact absurd hok (hunknown hkind)
    | some kind =>
      refine ⟨_, hknown kind hkind, fun row hrow => ?_⟩
      refine ⟨(List.mem_filter.mp (Gate.of_mem_listing hrow).1).1, ?_⟩
      rw [← scopeOf_tenant] at ht
      exact Gate.isolated_of_mem_listing (Table.ofKind_tenantColumn kind) ht hrow
  refused ht hstrict hadmin hshort kind hkind := by
    have hd := scopeOf_deniesUnscopedCaller.mpr ⟨hstrict, ht, hadmin⟩
    rw [(answer_listResources hget hroute hshort).1 kind hkind, Gate.listing_of_denied hd]
    rfl
  unrestricted ht hfree hshort kind hkind := by
    rw [(answer_listResources hget hroute hshort).1 kind hkind,
      Gate.listing_of_no_tenant (scopeOf_not_denied hfree) ht, Table.ofKind_kind]
    rfl
  overlong hlong := answer_of_tooLong hget hroute rfl hlong

theorem readsIsolated (hget : r.method = "GET")
    (hroute : Route.ofPath? r.target.path = some (.resource rawKind rawId)) :
    s.ReadsIsolated now st r rawKind rawId where
  tenant t ht hok := by
    have hshort := not_tooLong_of_status hget hroute rfl hok
    obtain ⟨kind, id, row, hread, hanswer⟩ := exists_reading_of_status hget hroute hshort hok
    have hget? := (Gate.reading_eq_ok_iff.mp hread).1
    rw [← scopeOf_tenant] at ht
    refine ⟨row, ?_, hanswer, Gate.isolated_of_reading ht hread⟩
    exact (List.mem_filter.mp (List.mem_of_find?_eq_some hget?)).1
  refused ht hstrict hadmin := by
    intro hok
    have hd := scopeOf_deniesUnscopedCaller.mpr ⟨hstrict, ht, hadmin⟩
    have hshort := not_tooLong_of_status hget hroute rfl hok
    obtain ⟨kind, id, row, hread, -⟩ := exists_reading_of_status hget hroute hshort hok
    exact Gate.reading_of_denied hd id hread
  unrestricted ht hfree hshort kind id hkind hid := by
    rw [(answer_readResource hget hroute hshort).1 kind id hkind hid,
      Gate.reading_of_no_tenant (scopeOf_not_denied hfree) ht, Table.ofKind_kind]
    rfl
  overlong hlong := answer_of_tooLong hget hroute rfl hlong

end Isolation

/-- **Rows do not cross tenants over HTTP.** Whatever the service is set up with, whatever state it
is in, and whatever a `GET` request says about host, headers, context and caller: both routes of
resources show a tenant's callers only what is fit to be shown to them, show nothing to callers who
are refused for want of a tenant, and leave the rest to the base policy. -/
theorem resources_isolated (hget : r.method = "GET") :
    (∀ raw, Route.ofPath? r.target.path = some (.resources raw) → s.ListsIsolated now st r raw) ∧
    (∀ rawKind rawId, Route.ofPath? r.target.path = some (.resource rawKind rawId) →
      s.ReadsIsolated now st r rawKind rawId) :=
  ⟨fun _ hroute => listsIsolated hget hroute, fun _ _ hroute => readsIsolated hget hroute⟩

/-- A strict service with one dashboard each of two tenants. -/
def sampleService : Service where
  settings := { Settings.default with strict := true }
  policy := .allowAll
  inventory := ⟨[.free ⟨.dashboard, "1", some ⟨"acme"⟩, true, .null⟩,
    .free ⟨.dashboard, "2", some ⟨"globex"⟩, true, .null⟩]⟩
  registryFault := none

def sampleState : State := sampleService.start .empty (.empty .enumerable)

/-- A request for all dashboards with some headers, by nobody in particular. -/
def sampleListing (headers : List (String × String)) : Request :=
  ⟨"GET", .ofChars "/resources/dashboards".toList, headers, "", none, none, 0⟩

/-- One tenant's caller is listed something by the sample, and it is fit to be shown. -/
theorem resources_isolated_sample :
    let r := sampleListing [("X-Tenant-ID", " acme ")]
    r.method = "GET" ∧ sampleService.effectiveTenant default sampleState r = some ⟨"acme"⟩ ∧
      (sampleService.answer default sampleState r).status = 200 ∧
      sampleService.ListsIsolated default sampleState r "dashboards".toList :=
  ⟨rfl, by decide, by decide, (resources_isolated _ _ _ _ rfl).1 _ (by decide)⟩

/-- Not every caller who is refused for want of a tenant is answered with an empty list: a request
that declares too long a body is turned away before anybody asks who is calling. -/
theorem overlong_listing_not_empty :
    let r := sampleListing [("Content-Length", "65537")]
    r.method = "GET" ∧ Route.ofPath? r.target.path = some (.resources "dashboards".toList) ∧
      kindAsked "dashboards".toList = some .dashboard ∧
      sampleService.effectiveTenant default sampleState r = none ∧
      sampleService.settings.strict = true ∧ r.principal.any Principal.isAdmin = false ∧
      (sampleService.answer default sampleState r).status = 413 ∧
      sampleService.answer default sampleState r ≠ .many [] := by
  intro r
  have hstatus : (sampleService.answer default sampleState r).status = 413 := by decide
  refine ⟨rfl, by decide, by decide, by decide, rfl, rfl, hstatus, fun h => ?_⟩
  rw [h] at hstatus
  exact absurd hstatus (by decide)

end Tenancy.Http.Service
