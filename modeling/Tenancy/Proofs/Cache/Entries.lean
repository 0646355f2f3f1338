import Tenancy.Cache

/-!
# Look-ups after changes to a cache

Entries are a list of pairs, but what they mean is what a look-up finds. One equation for each
change says what is found under a key afterwards; which pairs there are, and in which order, does
not matter from here on.
-/

set_option autoImplicit false

namespace Tenancy.Entries

variable {es : Entries} {k key : String}

theorem get?_erase_of_ne (h : k ≠ key) : (es.erase key).get? k = es.get? k := by
  unfold get? erase
  induction es with
  | nil => rfl
  | cons e es ih =>
    obtain ⟨k', v⟩ := e
    by_cases he : k' = key
    · have hk : (k == k') = false := beq_eq_false_iff_ne.mpr (he ▸ h)
      rw [List.filter_cons_of_neg (by simp [he]), List.lookup_cons, hk]
      exact ih
    · rw [List.filter_cons_of_pos (by simp [he]), List.lookup_cons, List.lookup_cons, ih]

theorem get?_erase_self : (es.erase key).get? key = none := by
  unfold get? erase
  rw [List.lookup_eq_none_iff]
  intro e he
  have hne : e.1 ≠ key := by simpa using (List.mem_filter.mp he).2
  simpa using fun h => hne h.symm

theorem get?_insert_of_ne {value : Json} (h : k ≠ key) :
    (es.insert key value).get? k = es.get? k := by
  have hk : (k == key) = false := beq_eq_false_iff_ne.mpr h
  show List.lookup k ((key, value) :: es.erase key) = _
  rw [List.lookup_cons, hk]
  exact get?_erase_of_ne h

/-- Deleting keys one after the other deletes these keys and no others. -/
theorem get?_eraseAll (keys : List String) :
    (es.eraseAll keys).get? k = if k ∈ keys then none else es.get? k := by
  unfold eraseAll
  induction keys generalizing es with
  | nil => rfl
  | cons key keys ih =>
    rw [List.foldl_cons, ih]
    by_cases hk : k = key
    · subst hk
      simp [get?_erase_self]
    · simp [get?_erase_of_ne hk, hk]

theorem mem_keysIn {space : String} :
    k ∈ es.keysIn space ↔ space.toList <+: k.toList ∧ es.get? k ≠ none := by
  unfold keysIn get?
  rw [List.mem_filter, List.isPrefixOf_iff_prefix, and_comm]
  refine and_congr_right' ?_
  rw [ne_eq, List.lookup_eq_none_iff, List.mem_map]
  constructor
  · rintro ⟨e, he, rfl⟩ h
    simpa using h e he
  · intro h
    obtain ⟨e, he⟩ := Classical.not_forall.mp h
    obtain ⟨hmem, hk⟩ := Classical.not_imp.mp he
    exact ⟨e, hmem, by simpa using Eq.symm (by simpa using hk)⟩

/-- Dropping a name space drops the values of the keys that begin with it, and no others. -/
theorem get?_eraseAll_keysIn (space : String) :
    (es.eraseAll (es.keysIn space)).get? k =
      if space.toList <+: k.toList then none else es.get? k := by
  rw [get?_eraseAll]
  by_cases hp : space.toList <+: k.toList
  · rw [if_pos hp]
    split
    · rfl
    · next hk =>
      refine Classical.not_not.mp fun hne => hk ?_
      exact mem_keysIn.mpr ⟨hp, hne⟩
  · rw [if_neg hp, if_neg fun hk => hp (mem_keysIn.mp hk).1]

/-! ## Keys that occur once -/

theorem nodup_erase (h : (es.map Prod.fst).Nodup) (key : String) :
    ((es.erase key).map Prod.fst).Nodup :=
  h.sublist (List.filter_sublist.map Prod.fst)

theorem nodup_insert (h : (es.map Prod.fst).Nodup) (key : String) (value : Json) :
    ((es.insert key value).map Prod.fst).Nodup := by
  refine List.nodup_cons.mpr ⟨fun hmem => ?_, nodup_erase h key⟩
  obtain ⟨e, he, hkey⟩ := List.mem_map.mp hmem
  exact absurd hkey (by simpa using (List.mem_filter.mp he).2)

theorem nodup_keysIn (h : (es.map Prod.fst).Nodup) (space : String) : (es.keysIn space).Nodup :=
  h.sublist List.filter_sublist

end Tenancy.Entries
