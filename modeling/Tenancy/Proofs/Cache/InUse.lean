import Tenancy.Proofs.Cache.Isolation

/-!
# A cache that is invalidated while it is used

Dropping a tenant's values takes more than one step: the keys are collected, and then they are
deleted one by one, and other callers go on in between. `InUse` is a cache together with the
invalidations that are under way, and a `Move` is one step of anyone: of a caller, or of one of the
invalidations. Any order of moves is a run, so a statement about runs is one about interleavings.

What a run means to those who use the cache is a history of changes to base keys, each on behalf of
an owner; no key as it is stored occurs in it. `get?_afterAll` says that a look-up finds what
according to the history was put there last.
-/

set_option autoImplicit false

namespace Tenancy.Cache

/-! ## Moves -/

/-- An invalidation that is under way, with the keys that it has collected and not deleted yet. -/
structure Sweep where
  tenant : TenantId
  keys : List String
  deriving DecidableEq, Repr

/-- One step of someone who uses the cache. -/
inductive Move where
  | get (scope : Scope) (base : String)
  | insert (scope : Scope) (base : String) (value : Json)
  | erase (scope : Scope) (base : String)
  /-- An invalidation begins: the tenant's keys are collected. -/
  | collect (tenant : TenantId)
  /-- The invalidation that began in this place deletes the next of its keys, if any is left. -/
  | remove (place : Nat)
  deriving Repr

namespace Move

/-- The move is a caller's whose owner is valid, or one of an invalidation of a valid id. -/
def Valid : Move → Prop
  | .get scope _ | .insert scope _ _ | .erase scope _ => ValidOwner scope.tenant
  | .collect t => t.isValid = true
  | .remove _ => True

/-- Whether the move is a deletion of the invalidation in a place. -/
def deletesFor (place : Nat) : Move → Bool
  | .remove i => i == place
  | _ => false

end Move

/-- What has become of an owner's base key: a value, or nothing if it was deleted. -/
structure Change where
  owner : Option TenantId
  base : String
  value : Option Json
  deriving Repr

namespace Change

/-- Whether a change is one of an owner's base key. -/
def concerns (c : Change) (owner : Option TenantId) (base : String) : Bool :=
  c.owner = owner && c.base = base

/-- The last change of an owner's base key. -/
def last? (owner : Option TenantId) (base : String) (history : List Change) : Option Change :=
  (history.filter fun c => c.concerns owner base).getLast?

/-- What an owner's base key holds according to a history: the value it was set to last, unless it
was deleted since. -/
def held (owner : Option TenantId) (base : String) (history : List Change) : Option Json :=
  (last? owner base history).bind value

theorem concerns_iff {c : Change} {owner : Option TenantId} {base : String} :
    c.concerns owner base = true ↔ c.owner = owner ∧ c.base = base := by
  simp [concerns]

theorem last?_append (owner : Option TenantId) (base : String) (a b : List Change) :
    last? owner base (a ++ b) = (last? owner base b).or (last? owner base a) := by
  rw [last?, List.filter_append, List.getLast?_append]
  rfl

end Change

/-- The base key of a key in a tenant's name space. -/
def baseIn (t : TenantId) (key : String) : String :=
  String.ofList (key.toList.drop (keySpace t).toList.length)

theorem key_baseIn {t : TenantId} {k : String} (h : (keySpace t).toList <+: k.toList) :
    key (baseIn t k) (some t) = k := by
  obtain ⟨rest, hrest⟩ := h
  apply String.toList_injective
  rw [key_some_toList, baseIn, String.toList_ofList, ← hrest, List.drop_left]

theorem baseIn_key (base : String) (t : TenantId) : baseIn t (key base (some t)) = base := by
  rw [baseIn, key_some_toList, List.drop_left, String.ofList_toList]

section Key

variable {es : Entries} {owner owner' : Option TenantId} {base base' : String}

theorem get?_insert_key {value : Json} {change : Option Json} (howner' : ValidOwner owner')
    (howner : ValidOwner owner) :
    (es.insert (key base' owner') value).get? (key base owner) =
      if Change.concerns ⟨owner', base', change⟩ owner base then some value
      else es.get? (key base owner) := by
  split
  · next h =>
    obtain ⟨rfl, rfl⟩ := Change.concerns_iff.mp h
    exact Entries.get?_insert_self _ _ _
  · next h =>
    refine Entries.get?_insert_of_ne fun heq => h ?_
    obtain ⟨ho, hb⟩ := (key_eq_key_iff howner howner').mp heq
    exact Change.concerns_iff.mpr ⟨ho.symm, hb.symm⟩

theorem get?_erase_key {change : Option Json} (howner' : ValidOwner owner')
    (howner : ValidOwner owner) :
    (es.erase (key base' owner')).get? (key base owner) =
      if Change.concerns ⟨owner', base', change⟩ owner base then none
      else es.get? (key base owner) := by
  split
  · next h =>
    obtain ⟨rfl, rfl⟩ := Change.concerns_iff.mp h
    exact Entries.get?_erase_self
  · next h =>
    refine Entries.get?_erase_of_ne fun heq => h ?_
    obtain ⟨ho, hb⟩ := (key_eq_key_iff howner howner').mp heq
    exact Change.concerns_iff.mpr ⟨ho.symm, hb.symm⟩

end Key

/-- A cache with the invalidations that have begun, each in its place in the order in which they
did. -/
structure InUse where
  cache : Cache
  sweeps : List Sweep
  deriving Repr

namespace InUse

/-- A cache in memory that holds nothing yet. -/
def fresh : InUse := ⟨.empty .enumerable, []⟩

/-- The cache after a move. -/
def after (u : InUse) : Move → InUse
  | .get scope base => { u with cache := u.cache.after (scope, .get base) }
  | .insert scope base value => { u with cache := u.cache.after (scope, .insert base value) }
  | .erase scope base => { u with cache := u.cache.after (scope, .erase base) }
  | .collect t => { u with sweeps := u.sweeps ++ [⟨t, u.cache.entries.keysIn (keySpace t)⟩] }
  | .remove i =>
    match u.sweeps[i]? with
    | some ⟨t, key :: rest⟩ => ⟨u.cache.settled (u.cache.discard key), u.sweeps.set i ⟨t, rest⟩⟩
    | _ => u

/-- The cache after some moves, one after the other. -/
def afterAll (u : InUse) (moves : List Move) : InUse := moves.foldl after u

/-- What a move changes. -/
def change? (u : InUse) : Move → Option Change
  | .get _ _ | .collect _ => none
  | .insert scope base value => some ⟨scope.tenant, base, some value⟩
  | .erase scope base => some ⟨scope.tenant, base, none⟩
  | .remove i =>
    match u.sweeps[i]? with
    | some ⟨t, key :: _⟩ => some ⟨some t, baseIn t key, none⟩
    | _ => none

/-- What some moves change, the first change first. -/
def history (u : InUse) : List Move → List Change
  | [] => []
  | m :: ms => (u.change? m).toList ++ history (u.after m) ms

/-! ## What every run keeps -/

/-- A cache in memory in which no key occurs twice, and invalidations of valid ids that have
collected keys of their own tenants only. -/
structure Sound (u : InUse) : Prop where
  ability : u.cache.ability = .enumerable
  nodup : (u.cache.entries.map Prod.fst).Nodup
  valid : ∀ sweep ∈ u.sweeps, sweep.tenant.isValid = true
  inside : ∀ sweep ∈ u.sweeps, ∀ key ∈ sweep.keys, (keySpace sweep.tenant).toList <+: key.toList

theorem sound_fresh : fresh.Sound where
  ability := rfl
  nodup := List.nodup_nil
  valid _ h := absurd h List.not_mem_nil
  inside _ h := absurd h List.not_mem_nil

section Step

variable {u : InUse} {scope : Scope} {i : Nat}

theorem Sound.cache_eq (h : u.Sound) : u.cache = ⟨.enumerable, u.cache.entries⟩ := by
  rw [← h.ability]

theorem Sound.entries_insert (h : u.Sound) (base : String) (value : Json) :
    (u.after (.insert scope base value)).cache =
      ⟨.enumerable, u.cache.entries.insert (key base scope.tenant) value⟩ := by
  show u.cache.after (scope, .insert base value) = _
  rw [h.cache_eq]
  rfl

theorem Sound.entries_erase (h : u.Sound) (base : String) :
    (u.after (.erase scope base)).cache =
      ⟨.enumerable, u.cache.entries.erase (key base scope.tenant)⟩ := by
  show u.cache.after (scope, .erase base) = _
  rw [h.cache_eq]
  rfl

theorem Sound.after_get (h : u.Sound) (base : String) : u.after (.get scope base) = u := by
  obtain ⟨cache, sweeps⟩ := u
  obtain ⟨ability, es⟩ := cache
  obtain rfl : ability = .enumerable := h.ability
  rfl

/-- A deletion takes the next key of its invalidation out of the cache. -/
theorem Sound.after_remove (h : u.Sound) {t : TenantId} {k : String} {rest : List String}
    (hsweep : u.sweeps[i]? = some ⟨t, k :: rest⟩) :
    u.after (.remove i) =
      ⟨⟨.enumerable, u.cache.entries.erase k⟩, u.sweeps.set i ⟨t, rest⟩⟩ := by
  obtain ⟨cache, sweeps⟩ := u
  obtain ⟨ability, es⟩ := cache
  obtain rfl : ability = .enumerable := h.ability
  simp only [after]
  rw [hsweep]
  rfl

/-- An invalidation that has no keys left does nothing. -/
theorem after_remove_of_none (hsweep : ∀ t k rest, u.sweeps[i]? ≠ some ⟨t, k :: rest⟩) :
    u.after (.remove i) = u := by
  simp only [after]

theorem change?_remove {t : TenantId} {k : String} {rest : List String}
    (hsweep : u.sweeps[i]? = some ⟨t, k :: rest⟩) :
    u.change? (.remove i) = some ⟨some t, baseIn t k, none⟩ := by
  simp only [change?]
  rw [hsweep]

theorem change?_remove_of_none (hsweep : ∀ t k rest, u.sweeps[i]? ≠ some ⟨t, k :: rest⟩) :
    u.change? (.remove i) = none := by
  simp only [change?]

theorem after_collect (u : InUse) (t : TenantId) :
    u.after (.collect t) =
      ⟨u.cache, u.sweeps ++ [⟨t, u.cache.entries.keysIn (keySpace t)⟩]⟩ := rfl

/-- The cases of a deletion: a key that was collected is taken out, or nothing is left to do. -/
theorem Sound.remove_cases (h : u.Sound) (i : Nat) :
    (∃ t k rest, u.sweeps[i]? = some ⟨t, k :: rest⟩ ∧ t.isValid = true ∧
      (keySpace t).toList <+: k.toList) ∨ ∀ t k rest, u.sweeps[i]? ≠ some ⟨t, k :: rest⟩ := by
  by_cases hex : ∃ t k rest, u.sweeps[i]? = some ⟨t, k :: rest⟩
  · obtain ⟨t, k, rest, hsweep⟩ := hex
    have hmem := List.mem_of_getElem? hsweep
    have hprefix := h.inside ⟨t, k :: rest⟩ hmem k
    exact .inl ⟨t, k, rest, hsweep, h.valid ⟨t, k :: rest⟩ hmem, hprefix List.mem_cons_self⟩
  · exact .inr fun t k rest hsweep => hex ⟨t, k, rest, hsweep⟩

theorem Sound.after (h : u.Sound) {m : Move} (hm : m.Valid) : (u.after m).Sound := by
  cases m with
  | get scope base => rwa [h.after_get]
  | insert scope base value =>
    have hcache : (u.after (.insert scope base value)).cache = _ := h.entries_insert base value
    exact ⟨by rw [hcache], by rw [hcache]; exact Entries.nodup_insert h.nodup _ _, h.valid, h.inside⟩
  | erase scope base =>
    have hcache : (u.after (.erase scope base)).cache = _ := h.entries_erase base
    exact ⟨by rw [hcache], by rw [hcache]; exact Entries.nodup_erase h.nodup _, h.valid, h.inside⟩
  | collect t =>
    refine ⟨h.ability, h.nodup, fun sweep hs => ?_, fun sweep hs => ?_⟩
    · rcases List.mem_append.mp hs with hs | hs
      · exact h.valid sweep hs
      · rw [List.mem_singleton.mp hs]
        exact hm
    · rcases List.mem_append.mp hs with hs | hs
      · exact h.inside sweep hs
      · rw [List.mem_singleton.mp hs]
        exact fun k hk => (Entries.mem_keysIn.mp hk).1
  | remove i =>
    rcases h.remove_cases i with ⟨t, k, rest, hsweep, ht, -⟩ | hnone
    · have hold := List.mem_of_getElem? hsweep
      rw [h.after_remove hsweep]
      refine ⟨rfl, Entries.nodup_erase h.nodup _, fun sweep hs => ?_, fun sweep hs => ?_⟩
      · rcases List.mem_or_eq_of_mem_set hs with hs | rfl
        · exact h.valid sweep hs
        · exact ht
      · rcases List.mem_or_eq_of_mem_set hs with hs | rfl
        · exact h.inside sweep hs
        · exact fun key hkey => h.inside _ hold key (List.mem_cons_of_mem _ hkey)
    · rwa [after_remove_of_none hnone]

theorem Sound.afterAll {moves : List Move} (h : u.Sound) (hmoves : ∀ m ∈ moves, m.Valid) :
    (u.afterAll moves).Sound := by
  induction moves generalizing u with
  | nil => exact h
  | cons m ms ih =>
    exact ih (h.after (hmoves m List.mem_cons_self)) fun m' hm' =>
      hmoves m' (List.mem_cons_of_mem _ hm')

/-! ## What is found after a run -/

/-- What is found under an owner's base key. -/
def get? (u : InUse) (owner : Option TenantId) (base : String) : Option Json :=
  u.cache.entries.get? (key base owner)

theorem Sound.found_eq (h : u.Sound) (scope : Scope) (base : String) :
    u.cache.found scope base = .ok (u.get? scope.tenant base) := by
  rw [h.cache_eq]
  rfl

/-- **One move changes what it is said to change, and nothing else**: the owner's base key of its
change, if it has one. -/
theorem Sound.get?_after (h : u.Sound) {m : Move} (hm : m.Valid) {owner : Option TenantId}
    (howner : ValidOwner owner) (base : String) :
    (u.after m).get? owner base =
      match u.change? m with
      | some c => if c.concerns owner base then c.value else u.get? owner base
      | none => u.get? owner base := by
  cases m with
  | get scope base' => rw [h.after_get]; rfl
  | collect t => rfl
  | insert scope base' value =>
    rw [InUse.get?, h.entries_insert, change?]
    exact get?_insert_key hm howner
  | erase scope base' =>
    rw [InUse.get?, h.entries_erase, change?]
    exact get?_erase_key hm howner
  | remove i =>
    rcases h.remove_cases i with ⟨t, k, rest, hsweep, ht, hk⟩ | hnone
    · have hvalid : ValidOwner (some t) := fun t' ht' => Option.some.inj ht' ▸ ht
      have herase : (u.cache.entries.erase (key (baseIn t k) (some t))).get? (key base owner) =
          if Change.concerns ⟨some t, baseIn t k, none⟩ owner base then none
          else u.get? owner base := get?_erase_key hvalid howner
      rw [key_baseIn hk] at herase
      rw [h.after_remove hsweep, change?_remove hsweep]
      exact herase
    · rw [after_remove_of_none hnone, change?_remove_of_none hnone]

/-- **A look-up finds what the history of a run says**, or what was there before the run if the run
did not change it. -/
theorem Sound.get?_afterAll {moves : List Move} (h : u.Sound) (hmoves : ∀ m ∈ moves, m.Valid)
    {owner : Option TenantId} (howner : ValidOwner owner) (base : String) :
    (u.afterAll moves).get? owner base =
      match Change.last? owner base (u.history moves) with
      | some c => c.value
      | none => u.get? owner base := by
  -- the induction is on the run; the cache is general, since each move leaves another one
  induction moves generalizing u with
  | nil => rfl
  | cons m ms ih =>
    have hm := hmoves m List.mem_cons_self
    have hrest := ih (h.after hm) fun m' hm' => hmoves m' (List.mem_cons_of_mem _ hm')
    rw [history, Change.last?_append]
    refine hrest.trans ?_
    cases Change.last? owner base ((u.after m).history ms) with
    | some c => rfl
    | none =>
      show (u.after m).get? owner base = _
      rw [h.get?_after hm howner]
      cases u.change? m with
      | none => rfl
      | some c =>
        show (if c.concerns owner base then c.value else u.get? owner base) = _
        by_cases hc : c.concerns owner base = true
        · simp [Change.last?, hc]
        · simp [Change.last?, hc]

end Step

end InUse

end Tenancy.Cache
