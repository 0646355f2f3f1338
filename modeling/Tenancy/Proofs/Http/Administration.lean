import Tenancy.Proofs.Http.SameReading

/-!
# Only administrators reach the administration

Directory and cache are what the endpoints of administration are about, and nothing behind the check
for an administrator is done for anybody else. So callers who are no administrators leave directory
and cache as they are, and cannot tell one from another: two runs of their requests, from whatever
directories and caches, are answered alike.

Both are the invariant `Untouched` of two runs side by side. Moments come from the clock and not
from the state, so the second run may be at other times; moments are then left aside, and the base
policy must not look at them.
-/

set_option autoImplicit false

namespace Tenancy.Http.Service

/-- Two states that have the directories and caches of two others, and equal memos. -/
structure Untouched (start start' st st' : State) : Prop where
  memo : st.memo = st'.memo
  directory : st.directory = start.directory
  cache : st.cache = start.cache
  directory' : st'.directory = start'.directory
  cache' : st'.cache = start'.cache

/-- A request comes again, at a moment at which nothing different is seen. -/
def Repeats (s : Service) (k : Closeness) (p p' : Instant × Request) : Prop :=
  p.2 = p'.2 ∧ s.SameMoment k p.1 p'.1

theorem lasting_untouched (start start' : State) : Lasting (Untouched start start') where
  memo h := h.memo
  learn h _ := { h with memo := rfl }

/-- **One request of a caller who is no administrator** leaves both states untouched, and is
answered alike in both. -/
theorem respondsAlike_untouched {s : Service} {k : Closeness} {p p' : Instant × Request}
    {start start' st st' : State} (hrepeats : s.Repeats k p p')
    (hcaller : p.2.principal.any Principal.isAdmin = false) (hst : Untouched start start' st st') :
    RespondsAlike k (Untouched start start') (s.respond p.1 p.2) (s.respond p'.1 p'.2) st st' := by
  obtain ⟨now, r⟩ := p
  obtain ⟨now', r'⟩ := p'
  obtain ⟨rfl, hmoment⟩ := hrepeats
  refine respondsAlike (lasting_untouched start start') (.refl s r) hmoment (.inl rfl) ?_ hst
  intro hadmin
  exact absurd (hcaller.symm.trans hadmin) Bool.false_ne_true

/-- **Only administrators change or learn anything of the administration.** Whatever requests come,
one after the other, if none of them is an administrator's: directory and cache are in the end what
they were; and two runs of them from states that differ in directory and cache only are answered
alike, so nothing in a response depends on which tenants are registered, active or cached. -/
theorem administration_closed (s : Service) {steps : List (Instant × Request)}
    (hcallers : ∀ p ∈ steps, p.2.principal.any Principal.isAdmin = false) (st : State) :
    (s.served steps st).2.directory = st.directory ∧ (s.served steps st).2.cache = st.cache ∧
    ∀ (k : Closeness) (steps' : List (Instant × Request)) (st' : State),
      List.Forall₂ (s.Repeats k) steps steps' → st.memo = st'.memo →
        List.Forall₂ (Response.Alike k) (s.served steps st).1 (s.served steps' st').1 := by
  have hruns : ∀ (k : Closeness) (steps' : List (Instant × Request)) (st' : State),
      List.Forall₂ (s.Repeats k) steps steps' → st.memo = st'.memo →
        List.Forall₂ (Response.Alike k) (s.served steps st).1 (s.served steps' st').1 ∧
          Untouched st st' (s.served steps st).2 (s.served steps' st').2 := by
    intro k steps' st' hsteps hmemo
    have hstart : Untouched st st' st st' := ⟨hmemo, rfl, rfl, rfl, rfl⟩
    have hpairs : List.Forall₂ (fun p p' => p.2.principal.any Principal.isAdmin = false ∧
        s.Repeats k p p') steps steps' :=
      (List.forall₂_and_left _ _).mpr ⟨hcallers, hsteps⟩
    exact served_alike (fun p p' hp _ _ hst => respondsAlike_untouched hp.2 hp.1 hst) hpairs hstart
  have hself : List.Forall₂ (s.Repeats .exact) steps steps :=
    List.forall₂_same.mpr fun _ _ => ⟨rfl, .inl rfl⟩
  obtain ⟨-, huntouched⟩ := hruns .exact steps st hself rfl
  exact ⟨huntouched.directory, huntouched.cache,
    fun k steps' st' hsteps hmemo => (hruns k steps' st' hsteps hmemo).1⟩

/-- A directory of one tenant, who has a cached value. -/
def inhabitedState : State :=
  { sampleState with
    directory := ⟨[⟨⟨"acme"⟩, "Acme", none, true, none, none, default, default, none, none⟩]⟩
    cache := ⟨.enumerable, [("tenant:acme:k", .null)]⟩ }

/-- A caller asks for something about a tenant. -/
def sampleCall (username : String) (role : Role) (method path : String) : Request :=
  ⟨method, .ofChars path.toList, [("X-Tenant-ID", "acme")], "", some (.plain username role), none,
    0⟩

/-- A caller who asks for a tenant's record and then tries to drop the tenant's cached values is
refused both times, whether there are any or not, and they stay. An administrator would have dropped
one. -/
theorem administration_closed_sample :
    let steps : List (Instant × Request) :=
      [(default, sampleCall "ann" .standard "GET" "/tenants/acme"),
        (default, sampleCall "ann" .standard "DELETE" "/tenants/acme/cache")]
    let dropping := sampleCall "root" .admin "DELETE" "/tenants/acme/cache"
    (∀ p ∈ steps, p.2.principal.any Principal.isAdmin = false) ∧
      List.Forall₂ (sampleService.Repeats .exact) steps steps ∧
      inhabitedState.memo = sampleState.memo ∧
      (sampleService.served steps inhabitedState).2.cache = inhabitedState.cache ∧
      (sampleService.served steps inhabitedState).1.map Response.status = [403, 403] ∧
      List.Forall₂ (Response.Alike .exact) (sampleService.served steps inhabitedState).1
        (sampleService.served steps sampleState).1 ∧
      (sampleService.served [(default, dropping)] inhabitedState).2.cache ≠
        inhabitedState.cache := by
  intro steps dropping
  have hcallers : ∀ p ∈ steps, p.2.principal.any Principal.isAdmin = false := by decide
  have hrepeats : List.Forall₂ (sampleService.Repeats .exact) steps steps :=
    .cons ⟨rfl, .inl rfl⟩ (.cons ⟨rfl, .inl rfl⟩ .nil)
  obtain ⟨-, hcache, hresponses⟩ := administration_closed sampleService hcallers inhabitedState
  have hdropped : (sampleService.served [(default, dropping)]
      inhabitedState).2.cache.entries = [] := by decide
  refine ⟨hcallers, hrepeats, rfl, hcache, by decide,
    hresponses .exact steps sampleState hrepeats rfl, fun h => ?_⟩
  rw [h] at hdropped
  exact absurd hdropped (by decide)

end Tenancy.Http.Service
