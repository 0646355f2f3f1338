import Tenancy.Cache

/-!
# When name spaces overlap

A tenant's name space is its id between two fixed marks, and the base key follows without anything
that would say where the id ends. So two tenants share keys exactly if one id goes on behind the
other one and a colon (`exists_key_eq_iff`); ids without colons, all valid ids among them, never do.
Between owners with valid ids, and the global name space, a key says whose it is and what its base
key is (`key_eq_key_iff`).
-/

set_option autoImplicit false

namespace Tenancy

namespace TenantId

/-- The id of `b` begins with that of `a` and a colon. -/
def Precedes (a b : TenantId) : Prop := a.text.toList ++ [':'] <+: b.text.toList

/-- Neither id begins with the other and a colon. -/
def Separate (a b : TenantId) : Prop := ¬a.Precedes b ∧ ¬b.Precedes a

instance (a b : TenantId) : Decidable (Precedes a b) :=
  inferInstanceAs (Decidable (_ <+: _))

instance (a b : TenantId) : Decidable (Separate a b) :=
  inferInstanceAs (Decidable (_ ∧ _))

theorem Separate.symm {a b : TenantId} (h : a.Separate b) : b.Separate a := ⟨h.2, h.1⟩

theorem not_precedes_of_not_mem {a b : TenantId} (h : ':' ∉ b.text.toList) : ¬a.Precedes b :=
  fun hp => h (hp.subset (List.mem_append_right _ (List.mem_singleton_self _)))

theorem colon_not_mem_of_isValid {t : TenantId} (h : t.isValid = true) : ':' ∉ t.text.toList := by
  obtain ⟨-, -, hall⟩ := isValidText_iff.mp h
  intro hmem
  exact absurd (hall _ hmem) (by decide)

theorem separate_of_isValid {a b : TenantId} (ha : a.isValid = true) (hb : b.isValid = true) :
    a.Separate b :=
  ⟨not_precedes_of_not_mem (colon_not_mem_of_isValid hb),
    not_precedes_of_not_mem (colon_not_mem_of_isValid ha)⟩

end TenantId

namespace Cache

theorem keySpace_toList (t : TenantId) :
    (keySpace t).toList = "tenant:".toList ++ (t.text.toList ++ [':']) := by
  simp [keySpace]

theorem key_some_toList (base : String) (t : TenantId) :
    (key base (some t)).toList = (keySpace t).toList ++ base.toList := by
  simp [key]

theorem keySpace_prefix_key (base : String) (t : TenantId) :
    (keySpace t).toList <+: (key base (some t)).toList := by
  rw [key_some_toList]
  exact List.prefix_append _ _

/-- One name space inside another: the ids are the same, or one precedes the other. -/
theorem keySpace_prefix_keySpace_iff {a b : TenantId} :
    (keySpace a).toList <+: (keySpace b).toList ↔ a = b ∨ a.Precedes b := by
  rw [keySpace_toList, keySpace_toList, List.prefix_append_right_inj, List.prefix_concat_iff]
  refine or_congr_left ?_
  constructor
  · intro h
    obtain ⟨htext, -⟩ := List.append_inj' h rfl
    cases a
    cases b
    exact congrArg TenantId.mk (String.toList_injective htext)
  · rintro rfl
    rfl

/-- **A tenant's name space holds a key of another tenant exactly if one id precedes the other.** -/
theorem exists_prefix_key_iff {a b : TenantId} :
    (∃ base, (keySpace a).toList <+: (key base (some b)).toList) ↔
      a = b ∨ a.Precedes b ∨ b.Precedes a := by
  constructor
  · rintro ⟨base, h⟩
    -- both name spaces begin one key, so one of them begins the other
    rcases List.prefix_or_prefix_of_prefix h (keySpace_prefix_key base b) with h | h
    · rcases keySpace_prefix_keySpace_iff.mp h with h | h
      · exact .inl h
      · exact .inr (.inl h)
    · rcases keySpace_prefix_keySpace_iff.mp h with h | h
      · exact .inl h.symm
      · exact .inr (.inr h)
  · rintro (rfl | h | h)
    · exact ⟨"", keySpace_prefix_key "" a⟩
    · exact ⟨"", (keySpace_prefix_keySpace_iff.mpr (.inr h)).trans (keySpace_prefix_key "" b)⟩
    · obtain ⟨rest, hrest⟩ := keySpace_prefix_keySpace_iff.mpr (.inr h)
      have hkey : (key (String.ofList rest) (some b)).toList = (keySpace a).toList := by
        rw [key_some_toList, String.toList_ofList, hrest]
      exact ⟨String.ofList rest, hkey ▸ List.prefix_rfl⟩

/-- **Two tenants share a key exactly if one id precedes the other.** -/
theorem exists_key_eq_iff {a b : TenantId} :
    (∃ ka kb, key ka (some a) = key kb (some b)) ↔ a = b ∨ a.Precedes b ∨ b.Precedes a := by
  rw [← exists_prefix_key_iff]
  constructor
  · rintro ⟨ka, kb, h⟩
    exact ⟨kb, h ▸ keySpace_prefix_key ka a⟩
  · rintro ⟨kb, rest, hrest⟩
    refine ⟨String.ofList rest, kb, String.toList_injective ?_⟩
    rw [key_some_toList, String.toList_ofList, hrest]

/-! ## Owners with valid ids -/

/-- Whom cached values belong to: a tenant with a valid id, or nobody in particular. -/
def ValidOwner (owner : Option TenantId) : Prop := ∀ t, owner = some t → t.isValid = true

/-- What the keys of an owner begin with. -/
def spaceOf (owner : Option TenantId) : String := owner.elim globalSpace keySpace

theorem key_toList (base : String) (owner : Option TenantId) :
    (key base owner).toList = (spaceOf owner).toList ++ base.toList := by
  cases owner <;> simp [key, spaceOf]

/-- **A key lies in a tenant's name space only if it is that tenant's**, whatever its base key looks
like, a key of another owner included. -/
theorem keySpace_prefix_key_iff {t : TenantId} {owner : Option TenantId} (ht : t.isValid = true)
    (howner : ValidOwner owner) (base : String) :
    (keySpace t).toList <+: (key base owner).toList ↔ owner = some t := by
  cases owner with
  | none =>
    -- the two marks differ in their first letter
    refine iff_of_false (fun h => ?_) (by simp)
    rw [keySpace_toList, key_toList] at h
    have hhead : (spaceOf none).toList = 'g' :: "lobal:".toList := by decide
    rw [hhead, List.cons_append] at h
    have hmark : "tenant:".toList = 't' :: "enant:".toList := by decide
    rw [hmark, List.cons_append, List.cons_prefix_cons] at h
    exact absurd h.1 (by decide)
  | some t' =>
    constructor
    · intro h
      have hsep := TenantId.separate_of_isValid ht (howner t' rfl)
      rcases exists_prefix_key_iff.mp ⟨base, h⟩ with rfl | hprecedes | hprecedes
      · rfl
      · exact absurd hprecedes hsep.1
      · exact absurd hprecedes hsep.2
    · intro h
      obtain rfl := Option.some.inj h
      exact keySpace_prefix_key base t'

/-- **Keys tell owners and base keys apart.** -/
theorem key_eq_key_iff {a b : Option TenantId} (ha : ValidOwner a) (hb : ValidOwner b)
    {ka kb : String} : key ka a = key kb b ↔ a = b ∧ ka = kb := by
  constructor
  · intro h
    have hab : a = b := by
      cases a with
      | some t =>
        have hprefix := keySpace_prefix_key ka t
        rw [h, keySpace_prefix_key_iff (ha t rfl) hb] at hprefix
        exact hprefix.symm
      | none =>
        cases b with
        | none => rfl
        | some t =>
          have hprefix := keySpace_prefix_key kb t
          rw [← h, keySpace_prefix_key_iff (hb t rfl) ha] at hprefix
          exact hprefix
    subst hab
    have hchars := congrArg String.toList h
    rw [key_toList, key_toList] at hchars
    exact ⟨rfl, String.toList_injective (List.append_cancel_left hchars)⟩
  · rintro ⟨rfl, rfl⟩
    rfl

end Cache

end Tenancy
