import Mathlib.Data.List.Forall2
import Tenancy.Proofs.Http.Lockstep

/-!
# Requests that are read alike

Of a request a service reads its method, target, body and caller, the context that is on it, and a
handful of headers. `ReadsAlike` says that all of that but the impersonation header is the same in
two requests. Such requests are resolved alike (`resolved_of_readsAlike`), whatever the moment; and
if the scopes that they act for look the same, every endpoint, the layers in front of it included,
answers them alike (`respondsAlike`). Sequences of requests are then compared one request after the
other (`served_alike`).
-/

set_option autoImplicit false

namespace Tenancy

namespace Resolution

/-- The context that a request is resolved to, and the memo after it, from the candidate: the moment
comes in last. -/
theorem value_resolve (settings : Settings) (now : Instant) (signals : Signals)
    (principal : Option Principal) (memo : TenantId.Memo) :
    ((resolve settings now signals principal).run memo).value =
      (contextOf now ((candidate settings signals principal).run memo).value.1,
        ((candidate settings signals principal).run memo).value.2) := by
  unfold resolve
  rw [StateT.run_bind, Logged.value_bind]
  rcases ((candidate settings signals principal).run memo).value with ⟨_ | ⟨t, source⟩, memo'⟩
  · rfl
  · rfl

theorem resolvedAt_contextOf (now : Instant) (winner : Option (String × Source)) :
    (contextOf now winner).resolvedAt = now := by
  rcases winner with _ | ⟨t, source⟩ <;> rfl

theorem contextOf_at (now now' : Instant) (winner : Option (String × Source)) :
    contextOf now' winner = { contextOf now winner with resolvedAt := now' } := by
  rcases winner with _ | ⟨t, source⟩ <;> rfl

end Resolution

namespace Http.Service

open Handler

/-- What a service reads of two requests is the same, their impersonation headers aside. -/
structure ReadsAlike (s : Service) (r r' : Request) : Prop where
  method : r.method = r'.method
  target : r.target = r'.target
  body : r.body = r'.body
  principal : r.principal = r'.principal
  context : r.context = r'.context
  tenantHeader : r.header? s.settings.tenantHeader = r'.header? s.settings.tenantHeader
  host : r.header? "host" = r'.header? "host"
  contentType : r.header? "content-type" = r'.header? "content-type"
  contentLength : r.header? "content-length" = r'.header? "content-length"

theorem ReadsAlike.refl (s : Service) (r : Request) : s.ReadsAlike r r :=
  ⟨rfl, rfl, rfl, rfl, rfl, rfl, rfl, rfl, rfl⟩

section Resolved

variable {s : Service} {r r' : Request} {st st' : State}

theorem outcome_onMemo {α : Type} (x : StateT TenantId.Memo Logged α) (st : State) :
    Step.outcome (onMemo x) st =
      ((x.run st.memo).value.1, { st with memo := (x.run st.memo).value.2 }) :=
  rfl

theorem ReadsAlike.candidate (h : s.ReadsAlike r r') :
    Resolution.candidate s.settings (r.signals s.settings) r.principal =
      Resolution.candidate s.settings (r'.signals s.settings) r'.principal := by
  have hhost : r.host? = r'.host? := by rw [Request.host?, Request.host?, h.host, h.target]
  rw [← h.principal]
  unfold Request.signals
  rw [hhost, h.tenantHeader]
  rfl

/-- **Requests that are read alike are resolved alike**, at whatever moments and whatever directory
and cache are: to the same tenant by the same signal, and equal memos stay equal. -/
theorem resolved_of_readsAlike (h : s.ReadsAlike r r') (hmemo : st.memo = st'.memo)
    (now now' : Instant) :
    ∃ (t : Instant) (memo : TenantId.Memo),
      (s.resolved now' st' r').1 = { (s.resolved now st r).1 with resolvedAt := t } ∧
      (now = now' → t = (s.resolved now st r).1.resolvedAt) ∧
      (s.resolved now st r).2 = { st with memo } ∧ (s.resolved now' st' r').2 = { st' with memo } ∧
      (st.memo.Sound → memo.Sound) := by
  unfold resolved
  rw [← h.context]
  cases r.context with
  | some c => exact ⟨c.resolvedAt, st.memo, rfl, fun _ => rfl, rfl, by rw [hmemo], id⟩
  | none =>
    have hyields : Resolution.Yields
        (Resolution.candidate s.settings (r.signals s.settings) r.principal)
        (Resolution.Evidence.of s.settings (r.signals s.settings) r.principal).winner :=
      Resolution.yields_candidate
    have hsound := hyields st.memo
    simp only [outcome_onMemo, Resolution.value_resolve, ← h.candidate, ← hmemo]
    generalize ((Resolution.candidate s.settings (r.signals s.settings) r.principal).run
      st.memo).value = found at hsound
    refine ⟨now', found.2, Resolution.contextOf_at now now' found.1, fun heq => ?_, rfl, rfl,
      fun hmemo => (hsound hmemo).2⟩
    rw [Resolution.resolvedAt_contextOf, heq]

/-- **The scopes of requests that are read alike look the same**, unless the policy looks at the
moment, or there is an administrator who impersonates and whose request names no tenant itself. -/
theorem sameView_of_readsAlike {now now' : Instant} (h : s.ReadsAlike r r')
    (hmemo : st.memo = st'.memo) (hmoment : now = now' ∨ s.policy.Timeless)
    (hheader :
      r.header? s.settings.impersonationHeader = r'.header? s.settings.impersonationHeader ∨
      r.principal.any Principal.isAdmin = false ∨
      s.policy.Discreet ∧ (s.resolved now st r).1.tenant.isSome = true) :
    Scope.SameView s.policy (s.scopeOf now st r) (s.scopeOf now' st' r') := by
  obtain ⟨t, memo, hcontext, ht, -, -, -⟩ := resolved_of_readsAlike h hmemo now now'
  have hscope : s.scopeOf now' st' r' =
      { s.scopeOf now st r with
        context := { (s.scopeOf now st r).context with resolvedAt := t }
        impersonated := (s.scopeOf now' st' r').impersonated } := by
    unfold scopeOf
    rw [hcontext, ← h.principal]
    rfl
  have himpersonated : (s.scopeOf now' st' r').impersonated = (s.scopeOf now st r).impersonated ∨
      s.policy.Discreet ∧ (s.scopeOf now st r).context.tenant.isSome = true := by
    rcases hheader with hheader | hadmin | hresolved
    · left
      show (if r'.principal.any Principal.isAdmin then _ else _) =
        if r.principal.any Principal.isAdmin then _ else _
      rw [h.principal, hheader]
    · left
      show (if r'.principal.any Principal.isAdmin then _ else _) =
        if r.principal.any Principal.isAdmin then _ else _
      rw [← h.principal, hadmin]
      rfl
    · exact .inr hresolved
  rw [hscope]
  exact Scope.sameView_of (hmoment.imp ht id) himpersonated

end Resolved

/-! ## Endpoints -/

/-- What is taken from a body depends on what it is said to be, and on how much of it is read. -/
theorem newTenant_congr {q q' : Request} (hjson : saysJson q = saysJson q')
    (hreadable : q.readable = q'.readable) (hbody : q.body = q'.body) :
    newTenant q = newTenant q' := by
  unfold newTenant
  rw [hjson, hreadable, hbody]

section Parts

variable {s : Service} {r r' : Request} (h : s.ReadsAlike r r') (now now' : Instant)
  (st st' : State)
include h

theorem activeOnly_prepared :
    activeOnly (s.prepared now st r) = activeOnly (s.prepared now' st' r') := by
  unfold activeOnly prepared
  rw [h.target]

theorem newTenant_prepared :
    newTenant (s.prepared now st r) = newTenant (s.prepared now' st' r') := by
  have hjson : saysJson (s.prepared now st r) = saysJson (s.prepared now' st' r') :=
    congrArg (fun value => (value.bind fun v => MediaType.parse v.toList).any MediaType.isJson)
      h.contentType
  have hreadable : readableOf r = readableOf r' := by
    unfold readableOf declaredLength?
    rw [h.contentLength]
  exact newTenant_congr hjson hreadable h.body

end Parts

section Endpoints

variable {k : Closeness} {s : Service} {now now' : Instant} {r r' : Request} {st₀ st₀' : State}
  {S : State → State → Prop} (hreads : s.ReadsAlike r r') (hnow : k.Allows now now')
  (hview : Scope.SameView s.policy (s.scopeOf now st₀ r) (s.scopeOf now' st₀' r'))
  (hat : k.Allows (s.resolved now st₀ r).1.resolvedAt (s.resolved now' st₀' r').1.resolvedAt)
  (hS : r.principal.any Principal.isAdmin = true → S = Together k)

theorem lockstep_note (e e' : Event) :
    Lockstep k S (fun _ _ => True) (note e : Handler PUnit) (note e') :=
  fun _ _ hS => ⟨.ok trivial, hS⟩

theorem lockstep_ready : Lockstep k S (Response.Alike k) (s.ready now) (s.ready now') := by
  have hready : s.ready now = s.ready now' := by
    unfold ready registry
    cases s.registryFault <;> rfl
  have hstill : Still (s.ready now') := by
    unfold ready registry
    cases s.registryFault with
    | none => exact ⟨_, fun _ => rfl⟩
    | some reason => exact ⟨_, fun _ => rfl⟩
  rw [hready]
  exact hstill.lockstep.mono fun _ _ heq => congrArg (Response.seen k) heq

include hview in
/-- The scopes that two requests act for look the same. -/
theorem lockstep_scope :
    Lockstep k S
      (fun a b => Scope.SameView s.policy a b ∧ a.isAdmin = r.principal.any Principal.isAdmin)
      (s.scope (s.prepared now st₀ r)) (s.scope (s.prepared now' st₀' r')) :=
  lockstep_still (s.outcome_scope now st₀ r) (s.outcome_scope now' st₀' r') (.ok ⟨hview, rfl⟩)

include hview hat in
theorem lockstep_currentTenant :
    Lockstep k S (Response.Alike k) (s.currentTenant (s.prepared now st₀ r))
      (s.currentTenant (s.prepared now' st₀' r')) := by
  have hcontext : ∀ (now : Instant) (st₀ : State) (r : Request) (st : State),
      Handler.outcome (context (s.prepared now st₀ r)) st = (.ok (s.resolved now st₀ r).1, st) :=
    fun _ _ _ _ => rfl
  unfold currentTenant
  refine (lockstep_still (hcontext now st₀ r) (hcontext now' st₀' r') (.ok ?_)).bind
    (Q := fun c c' => c.tenant = c'.tenant ∧ c.source = c'.source ∧
      k.Allows c.resolvedAt c'.resolvedAt) fun c c' hc => ?_
  · exact ⟨hview.resolved, hview.source, hat⟩
  obtain ⟨htenant, hsource, hmoment⟩ := hc
  refine (lockstep_scope hview).bind fun scope scope' hscope => ?_
  refine lockstep_pure (Response.one_congr 200 rfl rfl ?_)
  rw [htenant, hsource, hscope.1.tenant, hscope.1.impersonating]
  rcases hmoment with hmoment | rfl
  · rw [hmoment]
  · have hresolved : ∀ value, Json.withoutMoment "resolved_at" value = .null := fun _ => rfl
    show Json.timeless (.ofPairs _) = Json.timeless (.ofPairs _)
    rw [Json.timeless_ofPairs, Json.timeless_ofPairs]
    simp only [List.map_cons, List.map_nil, hresolved]

include hview in
theorem lockstep_listResources (raw : List Char) :
    Lockstep k S (Response.Alike k) (s.listResources (s.prepared now st₀ r) raw)
      (s.listResources (s.prepared now' st₀' r') raw) := by
  unfold listResources
  refine (lockstep_scope hview).bind fun scope scope' hscope => ?_
  have hsame : Scope.SameView s.gate.policy scope scope' := hscope.1
  refine (still_parameter _ _).lockstep.bind_eq fun segment => ?_
  refine (still_tableOf segment).lockstep.bind_eq fun table => ?_
  have hlisted : Lockstep k S Eq (attempt (s.gate.listAccessible scope s.inventory.catalog table))
      (attempt (s.gate.listAccessible scope' s.inventory.catalog table)) := by
    refine lockstep_found (s.outcome_listAccessible · scope table) fun st => ?_
    rw [outcome_listAccessible, hsame.listing]
  refine hlisted.bind_eq fun rows => ?_
  exact (lockstep_note _ _).bind fun _ _ _ => lockstep_pure rfl

include hview in
theorem lockstep_readResource (rawKind rawId : List Char) :
    Lockstep k S (Response.Alike k) (s.readResource (s.prepared now st₀ r) rawKind rawId)
      (s.readResource (s.prepared now' st₀' r') rawKind rawId) := by
  unfold readResource
  refine (lockstep_scope hview).bind fun scope scope' hscope => ?_
  have hsame : Scope.SameView s.gate.policy scope scope' := hscope.1
  refine (still_parameter _ _).lockstep.bind_eq fun segment => ?_
  refine (still_parameter _ _).lockstep.bind_eq fun id => ?_
  refine (still_tableOf segment).lockstep.bind_eq fun table => ?_
  have hread : Lockstep k S Eq (attempt (s.gate.getAccessible scope s.inventory.catalog table id))
      (attempt (s.gate.getAccessible scope' s.inventory.catalog table id)) := by
    refine lockstep_found (s.outcome_getAccessible · scope table id) fun st => ?_
    rw [outcome_getAccessible, hsame.reading]
  refine hread.bind_eq fun row => ?_
  exact lockstep_pure rfl

/-! ## Administration -/

include hview hS

include hreads in
theorem lockstep_listTenants :
    Lockstep k S (Response.Alike k) (s.listTenants now (s.prepared now st₀ r))
      (s.listTenants now' (s.prepared now' st₀' r')) := by
  unfold listTenants
  refine (lockstep_scope hview).bind fun scope scope' hscope => ?_
  rw [activeOnly_prepared hreads now now' st₀ st₀']
  refine (still_activeOnly _).lockstep.bind_eq fun activeOnly => ?_
  rw [discard_bind, discard_bind]
  refine lockstep_behindCheck hscope.1.principal (fun h => hS (hscope.2 ▸ h)) fun _ => ?_
  rw [registry_list, registry_list]
  refine (lockstep_step fun d d' hd => s.sameChange_reached (.ok ?_ hd)).bind
    (Q := fun rs rs' : List Registry.Record =>
      rs.map (Registry.Record.seen k) = rs'.map (Registry.Record.seen k)) fun rs rs' hrs => ?_
  · exact Registry.Directory.list_congr hd activeOnly
  · exact lockstep_pure (Response.many_congr (Registry.Record.map_toJson_congr hrs))

include hreads hnow in
theorem lockstep_createTenant :
    Lockstep k S (Response.Alike k) (s.createTenant now (s.prepared now st₀ r))
      (s.createTenant now' (s.prepared now' st₀' r')) := by
  unfold createTenant
  refine (lockstep_scope hview).bind fun scope scope' hscope => ?_
  rw [newTenant_prepared hreads now now' st₀ st₀']
  refine (still_newTenant _).lockstep.bind_eq fun t => ?_
  refine lockstep_behindCheck hscope.1.principal (fun h => hS (hscope.2 ▸ h)) fun admin => ?_
  rw [registry_create, registry_create]
  refine (lockstep_step fun d d' hd => s.sameChange_reached (sameChange_of_seenly
    (Registry.Directory.create_congr hd hnow t _))).bind fun record record' hrecord => ?_
  exact lockstep_pure (Response.one_congr 201 rfl rfl (Registry.Record.toJson_congr hrecord))

theorem lockstep_getTenant (raw : List Char) :
    Lockstep k S (Response.Alike k) (s.getTenant now (s.prepared now st₀ r) raw)
      (s.getTenant now' (s.prepared now' st₀' r') raw) := by
  unfold getTenant
  refine (lockstep_scope hview).bind fun scope scope' hscope => ?_
  refine (still_parameter _ _).lockstep.bind_eq fun id => ?_
  rw [discard_bind, discard_bind]
  refine lockstep_behindCheck hscope.1.principal (fun h => hS (hscope.2 ▸ h)) fun _ => ?_
  refine (lockstep_checkedId id).bind_eq fun id => ?_
  rw [registry_get?, registry_get?]
  refine (lockstep_step fun d d' hd => s.sameChange_reached (.ok ?_ hd)).bind
    (Q := fun found found' : Option Registry.Record =>
      found.map (Registry.Record.seen k) = found'.map (Registry.Record.seen k))
    fun found found' hfound => ?_
  · exact Registry.Directory.get?_congr hd id
  cases found with
  | none =>
    cases found' with
    | none => exact lockstep_throw _
    | some record' => cases hfound
  | some record =>
    cases found' with
    | none => cases hfound
    | some record' =>
      exact lockstep_pure (Response.one_congr 200 rfl rfl
        (Registry.Record.toJson_congr (Option.some.inj hfound)))

include hnow in
theorem lockstep_deactivateTenant (raw : List Char) :
    Lockstep k S (Response.Alike k) (s.deactivateTenant now (s.prepared now st₀ r) raw)
      (s.deactivateTenant now' (s.prepared now' st₀' r') raw) := by
  unfold deactivateTenant
  refine (lockstep_scope hview).bind fun scope scope' hscope => ?_
  refine (still_parameter _ _).lockstep.bind_eq fun id => ?_
  refine lockstep_behindCheck hscope.1.principal (fun h => hS (hscope.2 ▸ h)) fun admin => ?_
  refine (lockstep_checkedId id).bind_eq fun id => ?_
  rw [registry_deactivate, registry_deactivate]
  refine (lockstep_step fun d d' hd => s.sameChange_reached (sameChange_of_seenly
    (Registry.Directory.deactivate_congr hd hnow id _))).bind
    fun record record' hrecord => ?_
  exact lockstep_pure (Response.one_congr 200 rfl rfl (Registry.Record.toJson_congr hrecord))

omit hview hS in
/-- What dropping a tenant's cached values comes to. -/
theorem outcome_drop (id : String) (st : State) :
    Handler.outcome (do
      let st ← (get : Step State)
      let (removed, cache) ← attempt (st.cache.invalidate ⟨id⟩)
      set { st with cache }
      return Response.one 200
        (.ofPairs [("tenant_id", .text id), ("removed", .ofNat removed)])) st =
      match (st.cache.invalidate ⟨id⟩ : ExceptT Error Logged (Nat × Cache)).run.value with
      | .ok (removed, cache) =>
        (.ok (.one 200 (.ofPairs [("tenant_id", .text id), ("removed", .ofNat removed)])),
          { st with cache })
      | .error e => (.error (.ofError e), st) := by
  obtain ⟨memo, directory, ability, es⟩ := st
  cases ability <;> rfl

theorem lockstep_invalidateCache (raw : List Char) :
    Lockstep k S (Response.Alike k) (s.invalidateCache (s.prepared now st₀ r) raw)
      (s.invalidateCache (s.prepared now' st₀' r') raw) := by
  unfold invalidateCache
  refine (lockstep_scope hview).bind fun scope scope' hscope => ?_
  refine (still_parameter _ _).lockstep.bind_eq fun id => ?_
  rw [discard_bind, discard_bind]
  refine lockstep_behindCheck hscope.1.principal (fun h => hS (hscope.2 ▸ h)) fun _ => ?_
  refine (lockstep_checkedId id).bind_eq fun id => ?_
  intro st st' hst
  rw [outcome_drop, outcome_drop, ← hst.cache]
  rcases (st.cache.invalidate ⟨id⟩ : ExceptT Error Logged (Nat × Cache)).run.value with
    e | ⟨removed, cache⟩
  · exact ⟨.error rfl, hst⟩
  · exact ⟨.ok rfl, hst.memo, hst.sound, hst.directory, rfl⟩

include hreads hnow hat in
/-- **Every endpoint answers two requests alike that are read alike and whose scopes look the
same**, however states are related, or, if an administrator asks, if they are alike but for moments.
-/
theorem lockstep_handle (e : Endpoint) :
    Lockstep k S (Response.Alike k) (s.handle now e (s.prepared now st₀ r))
      (s.handle now' e (s.prepared now' st₀' r')) := by
  cases e with
  | health => exact lockstep_pure rfl
  | ready => exact lockstep_ready
  | version => exact lockstep_pure rfl
  | currentTenant => exact lockstep_currentTenant hview hat
  | listTenants => exact lockstep_listTenants hreads hview hS
  | createTenant => exact lockstep_createTenant hreads hnow hview hS
  | getTenant id => exact lockstep_getTenant hview hS id
  | deactivateTenant id => exact lockstep_deactivateTenant hnow hview hS id
  | invalidateCache id => exact lockstep_invalidateCache hview hS id
  | listResources kind => exact lockstep_listResources hview kind
  | readResource kind id => exact lockstep_readResource hview kind id

end Endpoints

/-! ## Responses -/

/-- Two steps answer alike in two states, and leave related states. -/
def RespondsAlike (k : Closeness) (S : State → State → Prop) (x x' : Step Response)
    (st st' : State) : Prop :=
  Response.Alike k (x.outcome st).1 (x'.outcome st').1 ∧ S (x.outcome st).2 (x'.outcome st').2

section Respond

variable {k : Closeness} {s : Service} {now now' : Instant} {r r' : Request} {st st' : State}
  {S : State → State → Prop}

theorem RespondsAlike.map {x x' : Step Response} (h : RespondsAlike k S x x' st st')
    {f : Response → Response}
    (hf : ∀ a b, Response.Alike k a b → Response.Alike k (f a) (f b)) :
    RespondsAlike k S (do let response ← x; return f response)
      (do let response ← x'; return f response) st st' :=
  ⟨hf _ _ h.1, h.2⟩

theorem respondsAlike_settle {x x' : Handler Response} (h : Lockstep k S (Response.Alike k) x x')
    (hst : S st st') : RespondsAlike k S (settle x) (settle x') st st' := by
  obtain ⟨hanswer, hstates⟩ := h st st' hst
  unfold RespondsAlike
  rw [Step.outcome_settle, Step.outcome_settle]
  refine ⟨?_, hstates⟩
  generalize (x.outcome st).1 = answer at hanswer ⊢
  generalize (x'.outcome st').1 = answer' at hanswer ⊢
  cases hanswer with
  | ok h => exact h
  | error h => exact h

/-- The layers refuse alike, or hand on to whoever answers alike. -/
theorem respondsAlike_layers (hreads : s.ReadsAlike r r') (hst : S st st')
    (hresolved : S (s.resolved now st r).2 (s.resolved now' st' r').2)
    {inner inner' : Request → Step Response} (hinner : ∀ st₁ st₁', S st₁ st₁' →
      RespondsAlike k S (inner (s.prepared now st r)) (inner' (s.prepared now' st' r')) st₁ st₁') :
    RespondsAlike k S (s.layers now inner r) (s.layers now' inner' r') st st' := by
  have htooLong : tooLong r = tooLong r' := by
    unfold tooLong declaredLength?
    rw [hreads.contentLength]
  unfold RespondsAlike
  rw [outcome_layers, outcome_layers, ← htooLong]
  split
  · exact ⟨rfl, hst⟩
  · exact hinner _ _ hresolved

theorem respondsAlike_of_sameView (hreads : s.ReadsAlike r r') (hnow : k.Allows now now')
    (hat : k.Allows (s.resolved now st r).1.resolvedAt (s.resolved now' st' r').1.resolvedAt)
    (hview : Scope.SameView s.policy (s.scopeOf now st r) (s.scopeOf now' st' r'))
    (hS : r.principal.any Principal.isAdmin = true → S = Together k) (hst : S st st')
    (hresolved : S (s.resolved now st r).2 (s.resolved now' st' r').2) :
    RespondsAlike k S (s.respond now r) (s.respond now' r') st st' := by
  unfold respond respondThrough
  rw [← hreads.target, ← hreads.method]
  cases Route.ofPath? r.target.path with
  | none => exact respondsAlike_layers hreads hst hresolved fun _ _ h => ⟨rfl, h⟩
  | some route =>
    dsimp only
    cases route.endpoint? r.method with
    | none =>
      have hlayers : RespondsAlike k S (s.layers now (fun _ => pure (.bare 405)) r)
          (s.layers now' (fun _ => pure (.bare 405)) r') st st' :=
        respondsAlike_layers hreads hst hresolved fun _ _ h => ⟨rfl, h⟩
      exact hlayers.map fun a b hab => by
        rw [Response.Alike, Response.seen_allowing, hab, Response.seen_allowing]
    | some e =>
      have hlayers : RespondsAlike k S (s.layers now (fun r => settle (s.handle now e r)) r)
          (s.layers now' (fun r => settle (s.handle now' e r)) r') st st' :=
        respondsAlike_layers hreads hst hresolved fun _ _ h =>
          respondsAlike_settle (lockstep_handle hreads hnow hview hat hS e) h
      refine hlayers.map fun a b hab => ?_
      split
      · rw [Response.Alike, Response.seen_withoutBody, hab, Response.seen_withoutBody]
      · exact hab

/-- Nothing different is seen at two moments: they are the same, or neither the comparison nor the
base policy looks at them. -/
def SameMoment (s : Service) (k : Closeness) (now now' : Instant) : Prop :=
  now = now' ∨ k = .momentsAside ∧ s.policy.Timeless

/-- Related states have equal memos, and stay related when both memos learn the same. -/
structure Lasting (S : State → State → Prop) : Prop where
  memo {st st' : State} : S st st' → st.memo = st'.memo
  learn {st st' : State} {memo : TenantId.Memo} : S st st' → (st.memo.Sound → memo.Sound) →
    S { st with memo } { st' with memo }

/-- **A service answers two requests alike that it reads alike**, if their impersonation headers are
the same, or are an outsider's, or do not count as a tenant was resolved. -/
theorem respondsAlike (hlasting : Lasting S) (hreads : s.ReadsAlike r r')
    (hmoment : s.SameMoment k now now')
    (hheader :
      r.header? s.settings.impersonationHeader = r'.header? s.settings.impersonationHeader ∨
      r.principal.any Principal.isAdmin = false ∨
      s.policy.Discreet ∧ (s.resolved now st r).1.tenant.isSome = true)
    (hS : r.principal.any Principal.isAdmin = true → S = Together k) (hst : S st st') :
    RespondsAlike k S (s.respond now r) (s.respond now' r') st st' := by
  have hmemo : st.memo = st'.memo := hlasting.memo hst
  obtain ⟨t, memo, hcontext, ht, hleft, hright, hsound⟩ :=
    resolved_of_readsAlike hreads hmemo now now'
  have hat : k.Allows (s.resolved now st r).1.resolvedAt (s.resolved now' st' r').1.resolvedAt := by
    rw [hcontext]
    exact hmoment.imp (fun heq => (ht heq).symm) And.left
  have hview := sameView_of_readsAlike hreads hmemo (hmoment.imp_right And.right) hheader
  refine respondsAlike_of_sameView hreads (hmoment.imp_right And.left) hat hview hS hst ?_
  rw [hleft, hright]
  exact hlasting.learn hst hsound

end Respond

/-! ## Runs -/

/-- The responses to some requests, one after the other and each at a moment of its own, and the
state after them. -/
def served (s : Service) : List (Instant × Request) → State → List Response × State
  | [], st => ([], st)
  | p :: ps, st =>
    let first := (s.respond p.1 p.2).outcome st
    let rest := s.served ps first.2
    (first.1 :: rest.1, rest.2)

/-- **Two runs stay side by side** if related states make for like answers to each pair of requests.
-/
theorem served_alike {k : Closeness} {s : Service} {S : State → State → Prop}
    {P : Instant × Request → Instant × Request → Prop}
    (hP : ∀ p p', P p p' → ∀ st st', S st st' →
      RespondsAlike k S (s.respond p.1 p.2) (s.respond p'.1 p'.2) st st')
    {steps steps' : List (Instant × Request)} (h : List.Forall₂ P steps steps') {st st' : State}
    (hst : S st st') :
    List.Forall₂ (Response.Alike k) (s.served steps st).1 (s.served steps' st').1 ∧
      S (s.served steps st).2 (s.served steps' st').2 := by
  -- the induction is on both sequences at once, over general states, as each request changes them
  induction h generalizing st st' with
  | nil => exact ⟨.nil, hst⟩
  | cons hp _ ih =>
    obtain ⟨hresponse, hstates⟩ := hP _ _ hp st st' hst
    obtain ⟨hresponses, hlast⟩ := ih hstates
    exact ⟨.cons hresponse hresponses, hlast⟩

end Http.Service

end Tenancy
