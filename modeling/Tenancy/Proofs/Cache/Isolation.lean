import Tenancy.Proofs.Cache.Entries
import Tenancy.Proofs.Cache.Key
import Tenancy.Resolution

/-!
# What one tenant's requests do to another's cached values

A request works on the cache through keys of its own tenant, and at most drops that tenant's name
space. So it leaves another tenant's values alone as long as neither name space holds a key of the
other, and no longer: `apart_iff_separate` says of keys, of invalidation and of whole runs of
operations that they stay apart exactly if the tenants' ids are separate.

Valid ids always are. Ids that come from a header need not be, and `header_tenants_not_apart` is a
pair of requests one of which finds what the other has written.
-/

set_option autoImplicit false

namespace Tenancy.Cache

/-! ## Operations and runs -/

/-- What a request does with cached values. -/
inductive Operation where
  | get (base : String)
  | insert (base : String) (value : Json)
  | erase (base : String)
  | invalidate
  deriving Repr

/-- An operation on a cache on behalf of a scope; what is invalidated is the scope's tenant. -/
def Operation.perform (c : Cache) (scope : Scope) : Operation → ExceptT Error Logged Cache
  | .get base => (fun _ => c) <$> (c.get? scope base : ExceptT Error Logged (Option Json))
  | .insert base value => c.insert scope base value
  | .erase base => c.erase scope base
  | .invalidate =>
    match scope.tenant with
    | some t => Prod.snd <$> c.invalidate t
    | none => return c

/-- The cache behind a call that may fail; one that fails changes nothing. -/
def settled (c : Cache) (call : ExceptT Error Logged Cache) : Cache :=
  match call.run.value with
  | .ok c' => c'
  | .error _ => c

/-- The cache after an operation on behalf of a scope. -/
def after (c : Cache) (step : Scope × Operation) : Cache :=
  c.settled (step.2.perform c step.1)

/-- The cache after some operations, one after the other, each on behalf of a scope of its own. -/
def afterAll (c : Cache) (steps : List (Scope × Operation)) : Cache := steps.foldl after c

def invalidated (c : Cache) (t : TenantId) : Cache :=
  c.settled (Prod.snd <$> c.invalidate t)

/-- What a scope finds under a base key. -/
def found (c : Cache) (scope : Scope) (base : String) : Except Error (Option Json) :=
  (c.get? scope base : ExceptT Error Logged (Option Json)).run.value

section Frame

variable {c : Cache} {scope : Scope} {a b : TenantId} {key : String}

theorem scopedKey_of_tenant (h : scope.tenant = some a) (base : String) :
    scopedKey scope base none = Cache.key base (some a) := by
  unfold scopedKey
  rw [h]
  rfl

theorem found_congr {c' : Cache} {base : String} (hability : c'.ability = c.ability)
    (hentries : c'.entries.get? (scopedKey scope base none) =
      c.entries.get? (scopedKey scope base none)) :
    c'.found scope base = c.found scope base := by
  unfold found Cache.get? fetch guarded
  rw [hability, hentries]

theorem found_enumerable {es : Entries} (h : scope.tenant = some a) (base : String) :
    found ⟨.enumerable, es⟩ scope base = .ok (es.get? (Cache.key base (some a))) := by
  rw [← scopedKey_of_tenant h]
  rfl

theorem invalidated_enumerable (es : Entries) (t : TenantId) :
    invalidated ⟨.enumerable, es⟩ t = ⟨.enumerable, es.eraseAll (es.keysIn (keySpace t))⟩ := rfl

/-- **One step stays in its name space**: no operation on behalf of a tenant changes what a cache is
able to do, or the value of a key outside of the tenant's name space. -/
theorem after_frame (op : Operation) (h : scope.tenant = some a)
    (hkey : ¬(keySpace a).toList <+: key.toList) :
    (c.after (scope, op)).ability = c.ability ∧
      (c.after (scope, op)).entries.get? key = c.entries.get? key := by
  -- whatever its base key is, the operation touches one key, and that lies in the name space
  have hne : ∀ base, key ≠ scopedKey scope base none := by
    rintro base rfl
    rw [scopedKey_of_tenant h] at hkey
    exact hkey (keySpace_prefix_key base a)
  obtain ⟨ability, es⟩ := c
  cases op with
  | get base => cases ability <;> exact ⟨rfl, rfl⟩
  | insert base value =>
    cases ability with
    | failing _ => exact ⟨rfl, rfl⟩
    | plain => exact ⟨rfl, Entries.get?_insert_of_ne (hne base)⟩
    | enumerable => exact ⟨rfl, Entries.get?_insert_of_ne (hne base)⟩
  | erase base =>
    cases ability with
    | failing _ => exact ⟨rfl, rfl⟩
    | plain => exact ⟨rfl, Entries.get?_erase_of_ne (hne base)⟩
    | enumerable => exact ⟨rfl, Entries.get?_erase_of_ne (hne base)⟩
  | invalidate =>
    unfold after Operation.perform
    rw [h]
    cases ability with
    | failing _ => exact ⟨rfl, rfl⟩
    | plain => exact ⟨rfl, rfl⟩
    | enumerable =>
      refine ⟨rfl, ?_⟩
      show (es.eraseAll (es.keysIn (keySpace a))).get? key = _
      rw [Entries.get?_eraseAll_keysIn, if_neg hkey]

theorem afterAll_frame (steps : List (Scope × Operation))
    (hsteps : ∀ step ∈ steps, step.1.tenant = some a)
    (hkey : ¬(keySpace a).toList <+: key.toList) :
    (c.afterAll steps).ability = c.ability ∧
      (c.afterAll steps).entries.get? key = c.entries.get? key := by
  -- the induction is on the run; the cache is general, since each step leaves another one
  induction steps generalizing c with
  | nil => exact ⟨rfl, rfl⟩
  | cons step steps ih =>
    have hstep := after_frame (c := c) step.2 (hsteps step List.mem_cons_self) hkey
    have hrest := ih (c := c.after step) fun s hs => hsteps s (List.mem_cons_of_mem _ hs)
    exact ⟨hrest.1.trans hstep.1, hrest.2.trans hstep.2⟩

end Frame

/-! ## Staying apart -/

/-- No key of one tenant is a key of the other. -/
def KeysApart (a b : TenantId) : Prop :=
  ∀ sa sb : Scope, sa.tenant = some a → sb.tenant = some b →
    ∀ ka kb, scopedKey sa ka none ≠ scopedKey sb kb none

/-- Dropping the values of `a` leaves what callers of `b` find, whatever a cache in memory holds. -/
def InvalidationApart (a b : TenantId) : Prop :=
  ∀ (es : Entries) (sb : Scope) (base : String), sb.tenant = some b →
    (invalidated ⟨.enumerable, es⟩ a).found sb base = found ⟨.enumerable, es⟩ sb base

/-- No run of operations on behalf of `a` changes what callers of `b` find. -/
def RunsApart (a b : TenantId) : Prop :=
  ∀ (c : Cache) (steps : List (Scope × Operation)), (∀ step ∈ steps, step.1.tenant = some a) →
    ∀ (sb : Scope) (base : String), sb.tenant = some b →
      (c.afterAll steps).found sb base = c.found sb base

section Apart

variable {a b : TenantId}

def scopeFor (t : TenantId) : Scope := .of (.resolved t .header default) none

theorem not_prefix_key_of_separate (hne : a ≠ b) (h : a.Separate b) (base : String) :
    ¬(keySpace a).toList <+: (key base (some b)).toList := by
  intro hp
  rcases exists_prefix_key_iff.mp ⟨base, hp⟩ with hab | hab | hba
  · exact hne hab
  · exact h.1 hab
  · exact h.2 hba

theorem exists_key_eq_of_not_separate (h : ¬a.Separate b) :
    ∃ ka kb, key ka (some a) = key kb (some b) := by
  rw [exists_key_eq_iff]
  by_cases hab : a.Precedes b
  · exact .inr (.inl hab)
  · by_cases hba : b.Precedes a
    · exact .inr (.inr hba)
    · exact absurd ⟨hab, hba⟩ h

theorem keysApart_iff (hne : a ≠ b) : KeysApart a b ↔ a.Separate b := by
  constructor
  · intro h
    refine Classical.not_not.mp fun hsep => ?_
    obtain ⟨ka, kb, hk⟩ := exists_key_eq_of_not_separate hsep
    exact h (scopeFor a) (scopeFor b) rfl rfl ka kb hk
  · intro h sa sb ha hb ka kb hk
    rw [scopedKey_of_tenant ha, scopedKey_of_tenant hb] at hk
    exact not_prefix_key_of_separate hne h kb (hk ▸ keySpace_prefix_key ka a)

theorem invalidationApart_iff (hne : a ≠ b) : InvalidationApart a b ↔ a.Separate b := by
  constructor
  · intro h
    refine Classical.not_not.mp fun hsep => ?_
    obtain ⟨ka, kb, hk⟩ := exists_key_eq_of_not_separate hsep
    -- what `b` holds under a shared key lies in the name space of `a`, too, and is dropped with it
    have hfound := h (Entries.insert [] (key kb (some b)) .null) (scopeFor b) kb rfl
    rw [invalidated_enumerable, found_enumerable rfl, found_enumerable rfl,
      Entries.get?_insert_self, Entries.get?_eraseAll_keysIn,
      if_pos (hk ▸ keySpace_prefix_key ka a)] at hfound
    exact absurd (Except.ok.inj hfound) (by simp)
  · intro h es sb base hb
    rw [invalidated_enumerable]
    refine found_congr rfl ?_
    rw [scopedKey_of_tenant hb, Entries.get?_eraseAll_keysIn,
      if_neg (not_prefix_key_of_separate hne h base)]

theorem runsApart_iff (hne : a ≠ b) : RunsApart a b ↔ a.Separate b := by
  constructor
  · intro h
    refine Classical.not_not.mp fun hsep => ?_
    obtain ⟨ka, kb, hk⟩ := exists_key_eq_of_not_separate hsep
    -- what `a` writes under a shared key is what `b` finds
    have hfound := h (.empty .enumerable) [(scopeFor a, .insert ka .null)]
      (fun step hstep => by rw [List.mem_singleton.mp hstep]; rfl) (scopeFor b) kb rfl
    have hwritten : (empty .enumerable).afterAll [(scopeFor a, .insert ka .null)] =
        ⟨.enumerable, Entries.insert [] (key ka (some a)) .null⟩ := rfl
    have hunwritten : (empty .enumerable).found (scopeFor b) kb = .ok none := rfl
    rw [hwritten, hunwritten, found_enumerable rfl, ← hk, Entries.get?_insert_self] at hfound
    exact absurd (Except.ok.inj hfound) (by simp)
  · intro h c steps hsteps sb base hb
    have hkey := not_prefix_key_of_separate hne h base
    rw [← scopedKey_of_tenant hb] at hkey
    have hframe := afterAll_frame steps hsteps hkey (c := c)
    exact found_congr hframe.1 hframe.2

end Apart

/-- **Two tenants are apart exactly if their ids are separate**: in their keys, in what invalidating
the one does to the other, and in what any run of operations of the one does to what the other
finds. Valid ids are separate, wherever they come from. -/
theorem apart_iff_separate {a b : TenantId} (hne : a ≠ b) :
    (KeysApart a b ↔ a.Separate b) ∧ (InvalidationApart a b ↔ a.Separate b) ∧
      (RunsApart a b ↔ a.Separate b) ∧
      (a.isValid = true → b.isValid = true → a.Separate b) :=
  ⟨keysApart_iff hne, invalidationApart_iff hne, runsApart_iff hne, TenantId.separate_of_isValid⟩

theorem apart_iff_separate_sample :
    (⟨"acme"⟩ : TenantId) ≠ ⟨"globex"⟩ ∧ KeysApart ⟨"acme"⟩ ⟨"globex"⟩ ∧
      InvalidationApart ⟨"acme"⟩ ⟨"globex"⟩ ∧ RunsApart ⟨"acme"⟩ ⟨"globex"⟩ := by
  have hne : (⟨"acme"⟩ : TenantId) ≠ ⟨"globex"⟩ := by decide
  obtain ⟨hkeys, hinvalidation, hruns, hvalid⟩ := apart_iff_separate hne
  have hsep := hvalid (by decide) (by decide)
  exact ⟨hne, hkeys.mpr hsep, hinvalidation.mpr hsep, hruns.mpr hsep⟩

/-- Two requests whose headers name two tenants that are not apart: what the first one writes, the
second one finds, and dropping the values of the first one's tenant takes it away again. -/
theorem header_tenants_not_apart :
    let resolve (header : String) : Option TenantId :=
      ((Resolution.resolve .default default ⟨none, some header, none⟩ none).run
        (.empty 100)).value.1.tenant
    let write : Scope × Operation := (scopeFor ⟨"a"⟩, .insert "b:k" (.bool true))
    let drop : Scope × Operation := (scopeFor ⟨"a"⟩, .invalidate)
    let c := empty .enumerable
    resolve "a" = some ⟨"a"⟩ ∧ resolve "a:b" = some ⟨"a:b"⟩ ∧
      scopedKey (scopeFor ⟨"a"⟩) "b:k" none = scopedKey (scopeFor ⟨"a:b"⟩) "k" none ∧
      c.found (scopeFor ⟨"a:b"⟩) "k" = .ok none ∧
      (c.afterAll [write]).found (scopeFor ⟨"a:b"⟩) "k" = .ok (some (.bool true)) ∧
      (c.afterAll [write, drop]).found (scopeFor ⟨"a:b"⟩) "k" = .ok none :=
  ⟨by decide, by decide, by decide, rfl, rfl, rfl⟩

end Tenancy.Cache
