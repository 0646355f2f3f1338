import Tenancy.Proofs.Cache.InUse

/-!
# Invalidations that others come in between

An invalidation is of use to those who go on with the cache only if it drops what it is there to
drop, and nothing of anybody else's, whoever comes in between. Two facts carry that. What it has
still to delete after a run are the keys that it collected, without as many of the first ones as it
has made steps: nobody takes keys from another one's sweep (`sweep_afterAll`). And a base key of its
tenant is one of these, or the cache does not hold it, until someone sets it again (`due_afterAll`).

`independent_of_valid` puts them together with the look-ups: the cache is one map for each owner.
-/

set_option autoImplicit false

namespace Tenancy.Cache

/-- Whether a move sets a tenant's base key. -/
def Move.sets (t : TenantId) (base : String) : Move → Bool
  | .insert scope base' _ => scope.tenant = some t && base' = base
  | _ => false

namespace InUse

section Sweep

variable {u : InUse} {i : Nat} {t : TenantId} {keys : List String} {m : Move} {base : String}

/-- **Nobody takes keys from another one's sweep**: only a step of its own moves it on. -/
theorem Sound.sweep_after (h : u.Sound) (m : Move) (hi : u.sweeps[i]? = some ⟨t, keys⟩) :
    (u.after m).sweeps[i]? = some ⟨t, if m.deletesFor i then keys.tail else keys⟩ := by
  cases m with
  | get scope base => rw [h.after_get]; exact hi
  | insert scope base value => exact hi
  | erase scope base => exact hi
  | collect t' =>
    obtain ⟨hlt, -⟩ := List.getElem?_eq_some_iff.mp hi
    exact (List.getElem?_append_left hlt).trans hi
  | remove j =>
    by_cases hj : j = i
    · subst hj
      rw [Move.deletesFor, beq_self_eq_true, if_pos rfl]
      cases keys with
      | nil =>
        rw [after_remove_of_none fun t' k rest hsweep => by simp [hi] at hsweep]
        exact hi
      | cons k rest =>
        obtain ⟨hlt, -⟩ := List.getElem?_eq_some_iff.mp hi
        rw [h.after_remove hi, List.getElem?_set_self hlt]
        rfl
    · have hother : (j == i) = false := beq_eq_false_iff_ne.mpr hj
      rw [Move.deletesFor, hother, if_neg Bool.false_ne_true]
      rcases h.remove_cases j with ⟨t', k, rest, hsweep, -, -⟩ | hnone
      · rw [h.after_remove hsweep, List.getElem?_set_ne hj]
        exact hi
      · rw [after_remove_of_none hnone]
        exact hi

theorem Sound.sweep_afterAll {moves : List Move} (h : u.Sound) (hmoves : ∀ m ∈ moves, m.Valid)
    (hi : u.sweeps[i]? = some ⟨t, keys⟩) :
    (u.afterAll moves).sweeps[i]? = some ⟨t, keys.drop (moves.countP (Move.deletesFor i))⟩ := by
  induction moves generalizing u keys with
  | nil => exact hi
  | cons m ms ih =>
    have hrest := ih (h.after (hmoves m List.mem_cons_self))
      (fun m' hm' => hmoves m' (List.mem_cons_of_mem _ hm')) (h.sweep_after m hi)
    refine hrest.trans ?_
    by_cases hm : m.deletesFor i = true
    · rw [if_pos hm, List.countP_cons_of_pos hm, List.drop_tail]
    · rw [if_neg hm, List.countP_cons_of_neg hm]

/-- A tenant's base key is one that the invalidation in a place has still to delete, or the cache
does not hold it. -/
def Due (u : InUse) (i : Nat) (t : TenantId) (base : String) : Prop :=
  (∃ keys, u.sweeps[i]? = some ⟨t, keys⟩ ∧ key base (some t) ∈ keys) ∨ u.get? (some t) base = none

/-- Whoever does not set a tenant's base key can at most take it away. -/
theorem value_eq_none_of_change? {c : Change} (hset : m.sets t base = false)
    (hc : u.change? m = some c) (hconcerns : c.concerns (some t) base = true) : c.value = none := by
  cases m with
  | get scope base => cases hc
  | collect t' => cases hc
  | erase scope base' => cases hc; rfl
  | insert scope base' value =>
    cases hc
    exact absurd hconcerns (Bool.eq_false_iff.mp hset)
  | remove j =>
    simp only [change?] at hc
    split at hc
    · cases hc; rfl
    · cases hc

theorem Sound.due_after (h : u.Sound) (ht : t.isValid = true) (hm : m.Valid)
    (hset : m.sets t base = false) (hdue : u.Due i t base) : (u.after m).Due i t base := by
  rcases hdue with ⟨keys, hi, hmem⟩ | hnone
  · by_cases hdel : m.deletesFor i = true
    · obtain ⟨k, rest, rfl⟩ := List.exists_cons_of_ne_nil (List.ne_nil_of_mem hmem)
      rcases List.mem_cons.mp hmem with rfl | hrest
      · cases m with
        | remove j =>
          obtain rfl : j = i := eq_of_beq hdel
          rw [h.after_remove hi]
          exact .inr Entries.get?_erase_self
        | _ => exact absurd hdel Bool.false_ne_true
      · have hsweep := h.sweep_after m hi
        rw [if_pos hdel] at hsweep
        exact .inl ⟨rest, hsweep, hrest⟩
    · have hsweep := h.sweep_after m hi
      rw [if_neg hdel] at hsweep
      exact .inl ⟨keys, hsweep, hmem⟩
  · right
    rw [h.get?_after hm fun t' ht' => Option.some.inj ht' ▸ ht]
    split
    · next c hc =>
      split
      · next hconcerns => exact value_eq_none_of_change? hset hc hconcerns
      · exact hnone
    · exact hnone

theorem Sound.due_afterAll {moves : List Move} (h : u.Sound) (ht : t.isValid = true)
    (hmoves : ∀ m ∈ moves, m.Valid) (hset : ∀ m ∈ moves, m.sets t base = false)
    (hdue : u.Due i t base) : (u.afterAll moves).Due i t base := by
  induction moves generalizing u with
  | nil => exact hdue
  | cons m ms ih =>
    have hm := hmoves m List.mem_cons_self
    exact ih (h.after hm) (fun m' hm' => hmoves m' (List.mem_cons_of_mem _ hm'))
      (fun m' hm' => hset m' (List.mem_cons_of_mem _ hm'))
      (h.due_after ht hm (hset m List.mem_cons_self) hdue)

/-- **An invalidation that has made its steps has dropped what it collected**, except for what was
set again after that. -/
theorem Sound.get?_swept {later : List Move} (h : u.Sound) (ht : t.isValid = true)
    (hlater : ∀ m ∈ later, m.Valid)
    (hdone : (u.cache.entries.keysIn (keySpace t)).length ≤
      later.countP (Move.deletesFor u.sweeps.length))
    (hset : ∀ m ∈ later, m.sets t base = false) :
    ((u.after (.collect t)).afterAll later).get? (some t) base = none := by
  have hbegun : (u.after (.collect t)).Sound := h.after (m := .collect t) ht
  have hsweep : (u.after (.collect t)).sweeps[u.sweeps.length]? =
      some ⟨t, u.cache.entries.keysIn (keySpace t)⟩ := by
    rw [after_collect]
    exact List.getElem?_concat_length
  have hdue : (u.after (.collect t)).Due u.sweeps.length t base := by
    by_cases hheld : u.get? (some t) base = none
    · exact .inr hheld
    · exact .inl ⟨_, hsweep, Entries.mem_keysIn.mpr ⟨keySpace_prefix_key base t, hheld⟩⟩
  rcases hbegun.due_afterAll ht hlater hset hdue with ⟨keys, hi, hmem⟩ | hnone
  · -- its steps have used up all keys that it collected, so that no key is due any more
    rw [hbegun.sweep_afterAll hlater hsweep, List.drop_eq_nil_of_le hdone] at hi
    cases hi
    exact absurd hmem List.not_mem_nil
  · exact hnone

end Sweep

/-! ## Invalidations on their own -/

/-- The steps of an invalidation that nobody comes in between. -/
def invalidation (u : InUse) (t : TenantId) : List Move :=
  .collect t ::
    List.replicate (u.cache.entries.keysIn (keySpace t)).length (.remove u.sweeps.length)

section Alone

variable {u : InUse} {i : Nat} {t : TenantId}

theorem valid_invalidation (ht : t.isValid = true) : ∀ m ∈ u.invalidation t, m.Valid := by
  intro m hm
  rcases List.mem_cons.mp hm with rfl | hm
  · exact ht
  · rw [List.eq_of_mem_replicate hm]
    trivial

theorem Sound.cache_afterAll_remove {keys : List String} (h : u.Sound)
    (hi : u.sweeps[i]? = some ⟨t, keys⟩) :
    (u.afterAll (List.replicate keys.length (.remove i))).cache =
      ⟨.enumerable, u.cache.entries.eraseAll keys⟩ := by
  induction keys generalizing u with
  | nil => exact h.cache_eq
  | cons k rest ih =>
    have hstep := h.after (m := .remove i) trivial
    have hsweep := h.sweep_after (.remove i) hi
    rw [Move.deletesFor, beq_self_eq_true, if_pos rfl] at hsweep
    refine (ih hstep hsweep).trans ?_
    rw [h.after_remove hi]
    rfl

theorem Sound.cache_invalidation (h : u.Sound) (ht : t.isValid = true) :
    (u.afterAll (u.invalidation t)).cache =
      ⟨.enumerable, u.cache.entries.eraseAll (u.cache.entries.keysIn (keySpace t))⟩ :=
  (h.after (m := .collect t) ht).cache_afterAll_remove List.getElem?_concat_length

/-- **Dropping a tenant's values is its steps without interruption.** -/
theorem Sound.run_invalidate (h : u.Sound) (ht : t.isValid = true) :
    (u.cache.invalidate t : ExceptT Error Logged (Nat × Cache)).run =
      ⟨.ok ((u.cache.entries.keysIn (keySpace t)).length, (u.afterAll (u.invalidation t)).cache),
        [.cacheCleared t (u.cache.entries.keysIn (keySpace t)).length]⟩ := by
  rw [h.cache_invalidation ht]
  obtain ⟨cache, sweeps⟩ := u
  obtain ⟨ability, es⟩ := cache
  obtain rfl : ability = .enumerable := h.ability
  rfl

/-- The keys that are collected are the tenant's base keys, each of them once. -/
theorem Sound.exists_bases (h : u.Sound) (t : TenantId) :
    ∃ bases : List String, bases.Nodup ∧ (∀ base, base ∈ bases ↔ u.get? (some t) base ≠ none) ∧
      bases.length = (u.cache.entries.keysIn (keySpace t)).length := by
  have hkey : ∀ k ∈ u.cache.entries.keysIn (keySpace t), key (baseIn t k) (some t) = k :=
    fun k hk => key_baseIn (Entries.mem_keysIn.mp hk).1
  refine ⟨(u.cache.entries.keysIn (keySpace t)).map (baseIn t), ?_, fun base => ?_,
    List.length_map _⟩
  · refine List.pairwise_map.mpr ((Entries.nodup_keysIn h.nodup _).imp_of_mem ?_)
    intro a b ha hb hne hab
    exact hne (by rw [← hkey a ha, ← hkey b hb, hab])
  · constructor
    · intro hmem
      obtain ⟨k, hk, rfl⟩ := List.mem_map.mp hmem
      rw [InUse.get?, hkey k hk]
      exact (Entries.mem_keysIn.mp hk).2
    · intro hheld
      refine List.mem_map.mpr ⟨key base (some t), ?_, baseIn_key base t⟩
      exact Entries.mem_keysIn.mpr ⟨keySpace_prefix_key base t, hheld⟩

end Alone

/-! ## One map for each owner -/

/-- A cache that is one map for each owner, after a history of changes. -/
structure Independent (u : InUse) (history : List Change) : Prop where
  /-- A look-up finds what its owner's base key holds according to the history. -/
  found : ∀ scope base, ValidOwner scope.tenant →
    u.cache.found scope base = .ok (Change.held scope.tenant base history)
  /-- The beginning of an invalidation changes nothing. -/
  collecting : ∀ t, (u.after (.collect t)).cache = u.cache
  /-- The steps of an invalidation change nothing of any other owner, whatever the base key. -/
  deleting : ∀ (i : Nat) (t : TenantId) (keys : List String), u.sweeps[i]? = some ⟨t, keys⟩ →
    ∀ owner base, ValidOwner owner → owner ≠ some t →
      (u.after (.remove i)).get? owner base = u.get? owner base
  /-- An invalidation that begins here, and makes its steps whoever else does what in between, drops
  the tenant's values, except for what is set after its beginning. -/
  swept : ∀ t later, t.isValid = true → (∀ m ∈ later, m.Valid) →
    (u.cache.entries.keysIn (keySpace t)).length ≤
      later.countP (Move.deletesFor u.sweeps.length) →
    ∀ base, (∀ m ∈ later, m.sets t base = false) →
      ((u.after (.collect t)).afterAll later).get? (some t) base = none
  /-- An invalidation that nobody comes in between answers how many base keys the tenant has, and
  leaves none of them. -/
  alone : ∀ t, t.isValid = true → ∃ bases : List String, bases.Nodup ∧
    (∀ base, base ∈ bases ↔ u.get? (some t) base ≠ none) ∧
    (u.cache.invalidate t : ExceptT Error Logged (Nat × Cache)).run =
      ⟨.ok (bases.length, (u.afterAll (u.invalidation t)).cache),
        [.cacheCleared t bases.length]⟩ ∧
    ∀ base, (u.afterAll (u.invalidation t)).get? (some t) base = none

theorem Sound.get?_after_remove {u : InUse} (h : u.Sound) {i : Nat} {t : TenantId}
    {keys : List String} (hi : u.sweeps[i]? = some ⟨t, keys⟩) {owner : Option TenantId}
    (howner : ValidOwner owner) (hne : owner ≠ some t) (base : String) :
    (u.after (.remove i)).get? owner base = u.get? owner base := by
  rw [h.get?_after (m := .remove i) trivial howner]
  cases keys with
  | nil => rw [change?_remove_of_none fun t' k rest hsweep => by simp [hi] at hsweep]
  | cons k rest =>
    rw [change?_remove hi]
    exact if_neg fun hconcerns => hne (Change.concerns_iff.mp hconcerns).1.symm

/-- **A cache in memory is one map for each owner, however its use and its invalidations are
interleaved**, as long as ids are valid; base keys are arbitrary. A cache that cannot enumerate its
keys is left as it is by an invalidation, which answers that it has dropped nothing. -/
theorem independent_of_valid {moves : List Move} (hmoves : ∀ m ∈ moves, m.Valid) :
    Independent (fresh.afterAll moves) (fresh.history moves) ∧
      ∀ (es : Entries) (t : TenantId),
        (Cache.invalidate ⟨.plain, es⟩ t : ExceptT Error Logged (Nat × Cache)).run =
          ⟨.ok (0, ⟨.plain, es⟩), [.cacheNotInvalidated t]⟩ := by
  have h := sound_fresh.afterAll hmoves
  refine ⟨⟨fun scope base howner => ?_, fun _ => rfl, fun i t keys hi owner base howner hne =>
    h.get?_after_remove hi howner hne base, fun t later ht hlater hdone base hset =>
    h.get?_swept ht hlater hdone hset, fun t ht => ?_⟩, fun _ _ => rfl⟩
  · rw [h.found_eq, sound_fresh.get?_afterAll hmoves howner, Change.held]
    cases Change.last? scope.tenant base (fresh.history moves) with
    | none => rfl
    | some c => rfl
  · obtain ⟨bases, hnodup, hmem, hlength⟩ := h.exists_bases t
    refine ⟨bases, hnodup, hmem, ?_, fun base => ?_⟩
    · rw [hlength]
      exact h.run_invalidate ht
    · refine h.get?_swept ht (fun m hm => ?_) ?_ fun m hm => ?_
      · exact valid_invalidation ht m (List.mem_cons_of_mem _ hm)
      · refine Nat.le_of_eq ?_
        rw [List.countP_replicate, Move.deletesFor, beq_self_eq_true, if_pos rfl]
      · rw [List.eq_of_mem_replicate hm]
        rfl

/-- A base key that looks like another tenant's key is not one: an invalidation of the tenant leaves
it, and takes away what it collected even though that was set again. -/
theorem independent_of_valid_sample :
    let acme : TenantId := ⟨"acme"⟩
    let globex : TenantId := ⟨"globex"⟩
    let moves : List Move := [.insert (scopeFor acme) "k" (.bool true),
      .insert (scopeFor globex) "tenant:acme:k" (.text "kept"), .collect acme,
      .insert (scopeFor acme) "k" (.bool false), .remove 0]
    (∀ m ∈ moves, m.Valid) ∧
      (fresh.afterAll moves).cache.found (scopeFor acme) "k" = .ok none ∧
      (fresh.afterAll moves).cache.found (scopeFor globex) "tenant:acme:k" =
        .ok (some (.text "kept")) := by
  intro acme globex moves
  have hacme : ValidOwner (some acme) := fun t ht => Option.some.inj ht ▸ by decide
  have hglobex : ValidOwner (some globex) := fun t ht => Option.some.inj ht ▸ by decide
  have hmoves : ∀ m ∈ moves, m.Valid := by
    simp only [moves, List.forall_mem_cons]
    exact ⟨hacme, hglobex, hacme acme rfl, hacme, trivial, fun _ h => absurd h List.not_mem_nil⟩
  have hfound := (independent_of_valid hmoves).1.found
  have hgone : (Change.held (some acme) "k" (fresh.history moves)).isNone = true := by decide
  have hkept : (Change.held (some globex) "tenant:acme:k" (fresh.history moves)).bind
      Json.asText? = some "kept" := by decide
  obtain ⟨value, hvalue, htext⟩ := Option.bind_eq_some_iff.mp hkept
  have hkept : value = .text "kept" := by
    cases value with
    | text s => exact congrArg Json.text (Option.some.inj htext)
    | _ => cases htext
  exact ⟨hmoves, (hfound (scopeFor acme) "k" hacme).trans
      (congrArg Except.ok (Option.isNone_iff_eq_none.mp hgone)),
    (hfound (scopeFor globex) "tenant:acme:k" hglobex).trans
      (congrArg Except.ok (hvalue.trans (congrArg some hkept)))⟩

end InUse

end Tenancy.Cache
