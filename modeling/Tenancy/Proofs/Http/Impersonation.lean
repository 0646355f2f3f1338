import Tenancy.Proofs.Http.SameReading

/-!
# Impersonation is for administrators

An administrator whose request names no tenant may act for the tenant that the impersonation header
names. For everybody else the header is as if it were not there: it can be left out, be blank, name
any tenant or be repeated, and neither a response nor what is left behind depends on it. An
administrator whose request resolves to a tenant is treated like everybody else.

That presupposes a header of its own (`SetApart`): where the impersonation header has the name of
another header that is read, it has the other's effect, too. With that, requests that differ in the
impersonation header only are read alike, and the rest is two runs side by side.
-/

set_option autoImplicit false

namespace Tenancy.Http

namespace Request

/-- The headers but those of one name. -/
def headersBut (name : String) (r : Request) : List (String × String) :=
  r.headers.filter fun h => !sameName h.1 name

/-- Two requests differ at most in the headers of one name, wherever and how often these come. -/
structure SameBut (name : String) (r r' : Request) : Prop where
  rest : r' = { r with headers := r'.headers }
  headers : r.headersBut name = r'.headersBut name

theorem SameBut.refl (name : String) (r : Request) : SameBut name r r := ⟨rfl, rfl⟩

/-- A header of another name is found among the others. -/
theorem find?_headersBut {name other : String} (hother : sameName other name = false)
    (r : Request) : (r.headersBut name).find? (fun h => sameName h.1 other) =
      r.headers.find? fun h => sameName h.1 other := by
  unfold headersBut
  rw [List.find?_filter]
  congr 1
  funext h
  cases hname : sameName h.1 other with
  | false => simp
  | true =>
    have hne : sameName h.1 name = false := by
      rw [← hother]
      unfold sameName
      rw [sameName_iff.mp hname]
    simp [hne]

/-- **A header of another name has the same value in both requests.** -/
theorem SameBut.header?_eq {name other : String} {r r' : Request} (h : SameBut name r r')
    (hother : sameName other name = false) : r.header? other = r'.header? other := by
  unfold header?
  rw [← find?_headersBut hother r, h.headers, find?_headersBut hother r']

end Request

namespace Service

/-- The impersonation header is none of the headers that are read for something else. -/
def SetApart (s : Service) : Prop :=
  ∀ name ∈ [s.settings.tenantHeader, "host", "content-type", "content-length"],
    Request.sameName name s.settings.impersonationHeader = false

instance (s : Service) : Decidable s.SetApart := List.decidableBAll _ _

/-- The context of a request has a tenant: the request comes with such a context, or something on it
names a tenant. -/
def resolvesTenant (s : Service) (r : Request) : Bool :=
  match r.context with
  | some c => c.tenant.isSome
  | none => (Resolution.Evidence.of s.settings (r.signals s.settings) r.principal).winner.isSome

/-- The second request is the first, but that an impersonation header may differ that does not
count: that of an outsider, or of an administrator whose context has a tenant. -/
structure Indistinct (s : Service) (k : Closeness) (p p' : Instant × Request) : Prop where
  moment : s.SameMoment k p.1 p'.1
  rest : Request.SameBut s.settings.impersonationHeader p.2 p'.2
  header : p.2 = p'.2 ∨ p.2.principal.any Principal.isAdmin = false ∨
    s.policy.Discreet ∧ s.resolvesTenant p.2 = true

section Indistinct

variable {s : Service} {k : Closeness} {r r' : Request} {st st' : State}

/-- **Requests that differ in an impersonation header of its own are read alike.** -/
theorem readsAlike_of_sameBut (hapart : s.SetApart)
    (h : Request.SameBut s.settings.impersonationHeader r r') : s.ReadsAlike r r' := by
  have hheader : ∀ name ∈ [s.settings.tenantHeader, "host", "content-type", "content-length"],
      r.header? name = r'.header? name := fun name hname => h.header?_eq (hapart name hname)
  simp only [List.forall_mem_cons, List.not_mem_nil, false_implies, implies_true, and_true]
    at hheader
  obtain ⟨htenant, hhost, htype, hlength⟩ := hheader
  have hrest := h.rest
  exact {
    method := by rw [hrest]
    target := by rw [hrest]
    body := by rw [hrest]
    principal := by rw [hrest]
    context := by rw [hrest]
    tenantHeader := htenant
    host := hhost
    contentType := htype
    contentLength := hlength }

/-- A tenant that something names is resolved. -/
theorem isSome_resolved_tenant (now : Instant) (hmemo : st.memo.Sound)
    (h : s.resolvesTenant r = true) : (s.resolved now st r).1.tenant.isSome = true := by
  unfold resolvesTenant at h
  unfold resolved
  cases hcontext : r.context with
  | some c =>
    rw [hcontext] at h
    exact h
  | none =>
    rw [hcontext] at h
    have hyields : Resolution.Yields
        (Resolution.resolve s.settings now (r.signals s.settings) r.principal)
        (Resolution.contextOf now
          (Resolution.Evidence.of s.settings (r.signals s.settings) r.principal).winner) :=
      Resolution.yields_resolve now
    dsimp only
    rw [outcome_onMemo, (hyields st.memo hmemo).1]
    obtain ⟨⟨t, source⟩, hwinner⟩ := Option.isSome_iff_exists.mp h
    rw [hwinner]
    rfl

theorem lasting_together (k : Closeness) : Lasting (Together k) where
  memo h := h.memo
  learn h hsound := ⟨rfl, hsound h.sound, h.directory, h.cache⟩

/-- **One request is answered alike** whatever its impersonation header is that does not count. -/
theorem respondsAlike_indistinct (hapart : s.SetApart) {p p' : Instant × Request}
    (h : s.Indistinct k p p') (hst : Together k st st') :
    RespondsAlike k (Together k) (s.respond p.1 p.2) (s.respond p'.1 p'.2) st st' := by
  refine respondsAlike (lasting_together k) (readsAlike_of_sameBut hapart h.rest) h.moment ?_
    (fun _ => rfl) hst
  rcases h.header with heq | hadmin | ⟨hdiscreet, hresolves⟩
  · exact .inl (congrArg (Request.header? · s.settings.impersonationHeader) heq)
  · exact .inr (.inl hadmin)
  · exact .inr (.inr ⟨hdiscreet, isSome_resolved_tenant p.1 hst.sound hresolves⟩)

end Indistinct

/-- **An impersonation header has no effect unless an administrator needs it.** Two runs of requests
that differ only in the impersonation headers of callers who are no administrators, or of
administrators whose contexts have tenants, are answered alike, and leave like directories and equal
caches: equal to the letter if they come at the same moments, and but for moments otherwise. The
memo has to hold right answers, as it does when a service starts and after every request. -/
theorem impersonation_ignored (s : Service) (hapart : s.SetApart) (k : Closeness)
    {steps steps' : List (Instant × Request)} (hsteps : List.Forall₂ (s.Indistinct k) steps steps')
    {st : State} (hmemo : st.memo.Sound) :
    List.Forall₂ (Response.Alike k) (s.served steps st).1 (s.served steps' st).1 ∧
      (s.served steps st).2.directory.seen k = (s.served steps' st).2.directory.seen k ∧
      (s.served steps st).2.cache = (s.served steps' st).2.cache := by
  have hstart : Together k st st := ⟨rfl, hmemo, rfl, rfl⟩
  obtain ⟨hresponses, hend⟩ :=
    served_alike (fun _ _ hp _ _ hst => respondsAlike_indistinct hapart hp hst) hsteps hstart
  exact ⟨hresponses, hend.directory, hend.cache⟩

/-- A request for the current tenant with some headers. -/
def sampleCurrent (role : Role) (headers : List (String × String)) : Request :=
  ⟨"GET", .ofChars "/tenant/current".toList, headers, "", some (.plain "ann" role), none, 0⟩

/-- A member without a tenant asks for one in vain, and an administrator who has a tenant asks for
another one in vain. An administrator who has none acts for the one that is asked for. -/
theorem impersonation_ignored_sample :
    let asking := ("X-Impersonate-Tenant", "globex")
    let steps : List (Instant × Request) :=
      [(default, sampleCurrent .standard [asking]),
        (default, sampleCurrent .admin [asking, ("X-Tenant-ID", "acme")])]
    let steps' : List (Instant × Request) :=
      [(default, sampleCurrent .standard []),
        (default, sampleCurrent .admin
          [("X-Tenant-ID", "acme"), ("x-impersonate-tenant", ""), asking])]
    sampleService.SetApart ∧ List.Forall₂ (sampleService.Indistinct .exact) steps steps' ∧
      sampleState.memo.Sound ∧
      List.Forall₂ (Response.Alike .exact) (sampleService.served steps sampleState).1
        (sampleService.served steps' sampleState).1 ∧
      (sampleService.served steps sampleState).1.map Response.status = [200, 200] ∧
      sampleService.effectiveTenant default sampleState (sampleCurrent .admin [asking]) =
        some ⟨"globex"⟩ := by
  intro asking steps steps'
  have hapart : sampleService.SetApart := by decide
  have hdiscreet : sampleService.policy.Discreet := fun _ _ _ _ => ⟨rfl, rfl⟩
  have hsteps : List.Forall₂ (sampleService.Indistinct .exact) steps steps' :=
    .cons ⟨.inl rfl, ⟨rfl, by decide⟩, .inr (.inl rfl)⟩
      (.cons ⟨.inl rfl, ⟨rfl, by decide⟩, .inr (.inr ⟨hdiscreet, by decide⟩)⟩ .nil)
  have hmemo : sampleState.memo.Sound := TenantId.Memo.sound_empty _
  exact ⟨hapart, hsteps, hmemo, (impersonation_ignored _ hapart .exact hsteps hmemo).1, by decide,
    by decide⟩

end Service

end Tenancy.Http
