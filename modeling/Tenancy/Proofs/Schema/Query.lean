import Tenancy.Proofs.Net.Url.Render
import Tenancy.Proofs.Text.Form
import Tenancy.Schema.ConnectionUri

/-!
# The query of a tenant's locator

The locator with a search path is read back from its text, and the segments of its query are those
of the base with the option added, byte for byte (`segments_pinned`): whatever is written there
stands for itself in a query, so writing the query changes nothing. As pairs, only the first
parameter that literally is one of options differs, and what is read of it is what was there, a
space, and the option (`pair_optionsSegment`).
-/

set_option autoImplicit false

namespace Tenancy.Schema

open Net Text Percent

/-! ## Adding an option to segments -/

/-- The name of a parameter of options. -/
def optionsName : List Char := ['o', 'p', 't', 'i', 'o', 'n', 's']

theorem optionsKey_eq : optionsKey = optionsName ++ ['='] := by decide

theorem optionsValue?_eq_some_iff {s existing : List Char} :
    optionsValue? s = some existing ↔ s = optionsKey ++ existing := by
  unfold optionsValue?
  constructor
  · intro h
    split at h
    · next hprefix =>
      obtain ⟨rest, hrest⟩ := List.isPrefixOf_iff_prefix.mp hprefix
      cases h
      rw [← hrest, List.drop_left]
    · cases h
  · rintro rfl
    rw [if_pos (List.isPrefixOf_iff_prefix.mpr (List.prefix_append _ _)), List.drop_left]

/-- A segment is one of the base, or the one that has the option. -/
theorem mem_addOption {encoded s : List Char} {ss : List (List Char)}
    (h : s ∈ addOption encoded ss) :
    s ∈ ss ∨ ∃ existing, s = optionsSegment existing encoded ∧
      (existing = [] ∨ optionsKey ++ existing ∈ ss) := by
  induction ss with
  | nil => exact .inr ⟨[], List.mem_singleton.mp h, .inl rfl⟩
  | cons t ss ih =>
    unfold addOption at h
    split at h
    · next existing hvalue =>
      rcases List.mem_cons.mp h with rfl | h
      · refine .inr ⟨existing, rfl, .inr ?_⟩
        rw [← optionsValue?_eq_some_iff.mp hvalue]
        exact List.mem_cons_self
      · exact .inl (List.mem_cons_of_mem _ h)
    · rcases List.mem_cons.mp h with rfl | h
      · exact .inl List.mem_cons_self
      · rcases ih h with h | ⟨existing, hs, hexisting⟩
        · exact .inl (List.mem_cons_of_mem _ h)
        · exact .inr ⟨existing, hs, hexisting.imp_right (List.mem_cons_of_mem _)⟩

theorem addOption_of_forall_none {encoded : List Char} {ss : List (List Char)}
    (h : ∀ s ∈ ss, optionsValue? s = none) :
    addOption encoded ss = ss ++ [optionsSegment [] encoded] := by
  induction ss with
  | nil => rfl
  | cons s ss ih =>
    rw [addOption, h s List.mem_cons_self, ih fun t ht => h t (List.mem_cons_of_mem _ ht),
      List.cons_append]

theorem mem_optionsSegment {existing encoded : List Char} {c : Char}
    (h : c ∈ optionsSegment existing encoded) :
    c ∈ optionsKey ++ "%20".toList ∨ c ∈ existing ∨ c ∈ encoded := by
  rcases List.mem_append.mp h with h | h
  · exact .inl (List.mem_append_left _ h)
  · split at h
    · exact .inr (.inr h)
    · rcases List.mem_append.mp h with h | h
      · rcases List.mem_append.mp h with h | h
        · exact .inr (.inl h)
        · exact .inl (List.mem_append_right _ h)
      · exact .inr (.inr h)

/-! ## Reading the segment that has the option -/

theorem pair_optionsKey_append (value : List Char) :
    Form.pair (optionsKey ++ value) = (optionsName, Form.decodeComponent value) := by
  have hname : Form.decodeComponent optionsName = optionsName := by decide
  rw [optionsKey_eq, List.append_assoc, List.singleton_append,
    Form.pair_append_cons (by decide), hname]

/-- What is read of the segment: the value that was there, a space, and the option. -/
theorem pair_of_optionsValue? {s existing : List Char} (h : optionsValue? s = some existing) :
    Form.pair s = (optionsName, Form.decodeComponent existing) := by
  rw [optionsValue?_eq_some_iff.mp h, pair_optionsKey_append]

/-- A segment that literally begins with the key is a parameter of options. -/
theorem optionsValue?_eq_none {s : List Char} (h : (Form.pair s).1 ≠ optionsName) :
    optionsValue? s = none := by
  cases hvalue : optionsValue? s with
  | none => rfl
  | some existing => exact absurd (congrArg Prod.fst (pair_of_optionsValue? hvalue)) h

theorem pair_optionsSegment (existing option : List Char) :
    Form.pair (optionsSegment existing (Form.encodeComponent option)) =
      (optionsName,
        if existing = [] then option else Form.decodeComponent existing ++ ' ' :: option) := by
  unfold optionsSegment
  rw [pair_optionsKey_append]
  split
  · rw [Form.decodeComponent_encodeComponent]
  · rw [Form.decodeComponent_append_blank]

/-! ## The locator -/

theorem isSpecial_of_isPostgres {scheme : List Char} (h : isPostgres scheme = true) :
    Url.isSpecial scheme = false := by
  have hnone : ∀ s ∈ Url.specialSchemes, isPostgres s.1.toList = false := by decide
  refine Bool.eq_false_iff.mpr fun hspecial => ?_
  obtain ⟨s, hs, hscheme⟩ := List.any_eq_true.mp hspecial
  rw [← beq_iff_eq.mp hscheme, hnone s hs] at h
  cases h

/-- The option that sets a search path, encoded. -/
def encodedOption (path : List Char) : List Char := Form.encodeComponent (searchPathOption path)

theorem pinned_eq (url : Url) (path : List Char) :
    pinned url path = url.withQuery
      (['&'].intercalate (addOption (encodedOption path) (Form.segments (url.query.getD [])))) :=
  rfl

theorem kept_of_mem_encodedOption {path : List Char} {c : Char} (h : c ∈ encodedOption path) :
    Kept (Url.inQuery false) c ∧ c ≠ '&' := by
  have hkept := Form.kept_of_mem_encodeComponent h
  have hall : Kept Form.isWritten c → Kept (Url.inQuery false) c ∧ c ≠ '&' :=
    of_forall_ascii c hkept.1 (by decide)
  exact hall hkept

section Pinned

variable {base : String} {url : Url} (hurl : Url.parse base = .ok url)
  (hpg : isPostgres url.scheme = true)
include hurl hpg

/-- **The locator of a tenant is read back from its text.** -/
theorem parse_pinned (path : List Char) :
    Url.parse (pinned url path).render = .ok (pinned url path) :=
  Url.parse_render_withQuery hurl (isSpecial_of_isPostgres hpg) _

theorem kept_of_mem_segments {s : List Char} (hs : s ∈ Form.segments (url.query.getD []))
    {c : Char} (hc : c ∈ s) : Kept (Url.inQuery false) c := by
  have hnormal := Url.normal_of_parse hurl (isSpecial_of_isPostgres hpg)
  have hmem := Form.mem_of_mem_segments hs hc
  cases hq : url.query with
  | none => simp [hq] at hmem
  | some q =>
    rw [hq] at hmem
    exact hnormal.query q hq c hmem

theorem of_mem_addOption {path s : List Char}
    (hs : s ∈ addOption (encodedOption path) (Form.segments (url.query.getD []))) :
    s ≠ [] ∧ '&' ∉ s ∧ ∀ c ∈ s, Kept (Url.inQuery false) c := by
  have hbase : ∀ t ∈ Form.segments (url.query.getD []),
      t ≠ [] ∧ '&' ∉ t ∧ ∀ c ∈ t, Kept (Url.inQuery false) c := fun t ht =>
    have h := Form.of_mem_segments ht
    ⟨h.1, h.2, fun c hc => kept_of_mem_segments hurl hpg ht hc⟩
  have hkey : ∀ c ∈ optionsKey ++ "%20".toList, Kept (Url.inQuery false) c ∧ c ≠ '&' :=
    forall_mem_of_all (by decide)
  rcases mem_addOption hs with hs | ⟨existing, rfl, hexisting⟩
  · exact hbase s hs
  -- the segment that has the option is made of the key, what was there, and what is added
  · have hvalue : ∀ c ∈ existing, Kept (Url.inQuery false) c ∧ c ≠ '&' := by
      intro c hc
      rcases hexisting with rfl | hmem
      · cases hc
      · obtain ⟨-, hamp, hkept⟩ := hbase _ hmem
        have hc := List.mem_append_right optionsKey hc
        exact ⟨hkept c hc, fun e => hamp (e ▸ hc)⟩
    have hall : ∀ c ∈ optionsSegment existing (encodedOption path),
        Kept (Url.inQuery false) c ∧ c ≠ '&' := by
      intro c hc
      rcases mem_optionsSegment hc with hc | hc | hc
      · exact hkey c hc
      · exact hvalue c hc
      · exact kept_of_mem_encodedOption hc
    have hne : optionsSegment existing (encodedOption path) ≠ [] := by
      rw [optionsSegment, optionsKey_eq]
      exact List.append_ne_nil_of_left_ne_nil (by decide) _
    exact ⟨hne, fun hmem => (hall _ hmem).2 rfl,
      fun c hc => (hall c hc).1⟩

/-- The query of a tenant's locator is the segments with the option, joined: writing them as a query
changes nothing. -/
theorem pinned_eq_joined (path : List Char) :
    pinned url path =
      { url with
        query := some (['&'].intercalate
          (addOption (encodedOption path) (Form.segments (url.query.getD [])))) } := by
  have hkept : ∀ c ∈ ['&'].intercalate (addOption (encodedOption path)
      (Form.segments (url.query.getD []))), Kept (Url.inQuery false) c := by
    intro c hc
    rcases mem_intercalate.mp hc with ⟨s, hs, hc⟩ | ⟨rfl, -⟩
    · exact (of_mem_addOption hurl hpg hs).2.2 c hc
    · decide
  rw [pinned_eq, Url.withQuery, isSpecial_of_isPostgres hpg, encode_of_kept hkept]

/-- **The segments of a tenant's locator are those of the base with the option added.** -/
theorem segments_pinned (path : List Char) :
    Form.segments ((pinned url path).query.getD []) =
      addOption (encodedOption path) (Form.segments (url.query.getD [])) := by
  rw [pinned_eq_joined hurl hpg, Option.getD_some]
  exact Form.segments_intercalate fun s hs =>
    ⟨(of_mem_addOption hurl hpg hs).1, (of_mem_addOption hurl hpg hs).2.1⟩

/-- The URI of a tenant's database is the text of that locator. -/
theorem tenantUri_eq (tenant : TenantId) (given : Option String) (fallback : String) :
    tenantUri base tenant given fallback =
      .ok (pinned url (searchPath (ofTenant tenant given) fallback).toList).render := by
  unfold tenantUri
  rw [hurl]
  exact if_pos hpg

end Pinned

end Tenancy.Schema
