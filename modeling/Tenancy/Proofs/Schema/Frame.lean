import Tenancy.Proofs.Schema.Query
import Tenancy.Text.Blank

/-!
# What a tenant's URI keeps of the base

The URI of a tenant's database is the base with one more startup option and nothing else. A base of
another database than Postgres is handed back as it is. Of any other only the query differs: its
segments are those of the base, byte for byte and in their order, save that the first parameter of
options has the option behind its value, or a new parameter of options stands behind them all
(`Adds`). What is added is read as the option that sets the search path (`decode_encodedOption`). It
holds no character that means anything in a query, so the URI is cut again into the same segments,
and pinning it for another tenant adds no further segment (`only_options_change`).
-/

set_option autoImplicit false

namespace Tenancy.Schema

open Net Text

/-! ## One option more -/

/-- Whether a segment literally is a parameter of options. -/
def IsOptions (segment : List Char) : Prop := optionsKey <+: segment

/-- Segments, and the same with an encoded option in the first parameter of options: as its value if
it has none, behind its value and an encoded space if it has one, or in a new parameter at the end if
there is none. -/
inductive Adds (encoded : List Char) : List (List Char) → List (List Char) → Prop
  | empty {front back : List (List Char)} (hfront : ∀ s ∈ front, ¬IsOptions s) :
    Adds encoded (front ++ optionsKey :: back) (front ++ (optionsKey ++ encoded) :: back)
  | behind {front back : List (List Char)} {existing : List Char}
    (hfront : ∀ s ∈ front, ¬IsOptions s) (hexisting : existing ≠ []) :
    Adds encoded (front ++ (optionsKey ++ existing) :: back)
      (front ++ (optionsKey ++ existing ++ "%20".toList ++ encoded) :: back)
  | new {segments : List (List Char)} (hsegments : ∀ s ∈ segments, ¬IsOptions s) :
    Adds encoded segments (segments ++ [optionsKey ++ encoded])

theorem isOptions_append (value : List Char) : IsOptions (optionsKey ++ value) :=
  List.prefix_append optionsKey value

theorem not_isOptions_of_optionsValue? {s : List Char} (h : optionsValue? s = none) :
    ¬IsOptions s := by
  rintro ⟨existing, rfl⟩
  rw [optionsValue?_eq_some_iff.mpr rfl] at h
  cases h

theorem Adds.cons {encoded s : List Char} {ss ts : List (List Char)} (hs : ¬IsOptions s)
    (h : Adds encoded ss ts) : Adds encoded (s :: ss) (s :: ts) := by
  cases h with
  | empty hfront =>
    rw [← List.cons_append, ← List.cons_append]
    exact .empty (List.forall_mem_cons.mpr ⟨hs, hfront⟩)
  | behind hfront hexisting =>
    rw [← List.cons_append, ← List.cons_append]
    exact .behind (List.forall_mem_cons.mpr ⟨hs, hfront⟩) hexisting
  | new hsegments =>
    rw [← List.cons_append]
    exact .new (List.forall_mem_cons.mpr ⟨hs, hsegments⟩)

theorem adds_addOption (encoded : List Char) (ss : List (List Char)) :
    Adds encoded ss (addOption encoded ss) := by
  have hnone : ∀ s ∈ ([] : List (List Char)), ¬IsOptions s := List.forall_mem_nil _
  induction ss with
  | nil => exact .new hnone
  | cons s ss ih =>
    unfold addOption
    split
    · next existing hvalue =>
      rw [optionsValue?_eq_some_iff.mp hvalue, optionsSegment]
      by_cases hexisting : existing = []
      · subst hexisting
        rw [List.append_nil, if_pos rfl]
        exact .empty hnone
      · rw [if_neg hexisting, ← List.append_assoc, ← List.append_assoc]
        exact .behind hnone hexisting
    · next hvalue => exact ih.cons (not_isOptions_of_optionsValue? hvalue)

/-- Afterwards there is a parameter of options. -/
theorem Adds.exists_isOptions {encoded : List Char} {ss ts : List (List Char)}
    (h : Adds encoded ss ts) : ∃ s ∈ ts, IsOptions s := by
  cases h with
  | empty hfront => exact ⟨_, List.mem_append_right _ List.mem_cons_self, isOptions_append _⟩
  | behind hfront hexisting =>
    refine ⟨_, List.mem_append_right _ List.mem_cons_self, ?_⟩
    rw [List.append_assoc, List.append_assoc]
    exact isOptions_append _
  | new hsegments => exact ⟨_, List.mem_append_right _ List.mem_cons_self, isOptions_append _⟩

/-- Where there is a parameter of options, none is added. -/
theorem Adds.length_eq {encoded : List Char} {ss ts : List (List Char)} (h : Adds encoded ss ts)
    (hexists : ∃ s ∈ ss, IsOptions s) : ts.length = ss.length := by
  cases h with
  | empty hfront => simp
  | behind hfront hexisting => simp
  | new hsegments =>
    obtain ⟨s, hs, hoptions⟩ := hexists
    exact absurd hoptions (hsegments s hs)

/-! ## The locator -/

/-- What is encoded is read as the option that sets the search path, by forms and by plain
percent-decoding alike. -/
theorem decode_encodedOption (path : List Char) :
    Form.decodeComponent (encodedOption path) = "-c search_path=".toList ++ path ∧
      decodeLossy (Percent.decode (encodedOption path)) = "-c search_path=".toList ++ path := by
  refine ⟨Form.decodeComponent_encodeComponent _, ?_⟩
  unfold encodedOption
  rw [Form.decode_encodeComponent, decodeLossy_octets]
  rfl

/-- What is encoded holds no character that means anything in a query, and no white space. -/
theorem of_mem_encodedOption {path : List Char} {c : Char} (h : c ∈ encodedOption path) :
    c ∉ ['&', '=', '#', '+'] ∧ isBlank c = false := by
  have hkept := Form.kept_of_mem_encodeComponent h
  have hall : Percent.Kept Form.isWritten c → c ∉ ['&', '=', '#', '+'] ∧ isBlank c = false :=
    of_forall_ascii c hkept.1 (by decide)
  exact hall hkept

section Pinned

variable {base : String} {url : Url} (hurl : Url.parse base = .ok url)
  (hpg : isPostgres url.scheme = true)
include hurl hpg

/-- **Pinning adds the option to the query and leaves all other parts alone.** No segment of the new
query is empty. -/
theorem exists_query_pinned (path : List Char) :
    ∃ query, pinned url path = { url with query := some query } ∧
      Form.segments query = pieces '&' query ∧
      Adds (encodedOption path) (Form.segments (url.query.getD [])) (pieces '&' query) := by
  have hadds := adds_addOption (encodedOption path) (Form.segments (url.query.getD []))
  obtain ⟨s, hs, -⟩ := hadds.exists_isOptions
  have hpieces := pieces_intercalate (List.ne_nil_of_mem hs) fun t ht =>
    (of_mem_addOption hurl hpg ht).2.1
  have hsegments := segments_pinned hurl hpg path
  rw [pinned_eq_joined hurl hpg, Option.getD_some] at hsegments
  refine ⟨_, pinned_eq_joined hurl hpg path, hsegments.trans hpieces.symm, ?_⟩
  rwa [hpieces]

end Pinned

/-- **The URI of a tenant's database differs from the base in the options only**, whatever the base,
the tenant and the two schemas. A base of another database is handed back. One of Postgres is read and
written with another query, whose segments are those of the base with the option added; what is written
is read as just that locator, so for another tenant it is pinned again with as many segments. -/
theorem only_options_change {base : String} {url : Url} (hurl : Url.parse base = .ok url)
    (tenant : TenantId) (given : Option String) (fallback : String) :
    (isPostgres url.scheme = false → tenantUri base tenant given fallback = .ok base) ∧
    (isPostgres url.scheme = true →
      let encoded := encodedOption (searchPath (ofTenant tenant given) fallback).toList
      Form.decodeComponent encoded =
        "-c search_path=".toList ++ (searchPath (ofTenant tenant given) fallback).toList ∧
      (∀ c ∈ encoded, c ∉ ['&', '=', '#', '+'] ∧ isBlank c = false) ∧
      ∃ query,
        let u := { url with query := some query }
        tenantUri base tenant given fallback = .ok u.render ∧ Url.parse u.render = .ok u ∧
          Adds encoded (Form.segments (url.query.getD [])) (pieces '&' query) ∧
          ∀ (tenant' : TenantId) (given' : Option String) (fallback' : String), ∃ query',
            tenantUri u.render tenant' given' fallback' =
                .ok ({ url with query := some query' } : Url).render ∧
              (pieces '&' query').length = (pieces '&' query).length) := by
  refine ⟨fun hother => ?_, fun hpg => ?_⟩
  · unfold tenantUri
    rw [hurl]
    exact if_neg (by rw [hother]; exact Bool.false_ne_true)
  intro encoded
  obtain ⟨query, hpinned, hsegments, hadds⟩ :=
    exists_query_pinned hurl hpg (searchPath (ofTenant tenant given) fallback).toList
  have huri := tenantUri_eq hurl hpg tenant given fallback
  have hparse := parse_pinned hurl hpg (searchPath (ofTenant tenant given) fallback).toList
  rw [hpinned] at huri hparse
  refine ⟨(decode_encodedOption _).1, fun c hc => of_mem_encodedOption hc, query, huri, hparse,
    hadds, ?_⟩
  intro tenant' given' fallback'
  obtain ⟨query', hpinned', -, hadds'⟩ :=
    exists_query_pinned hparse hpg (searchPath (ofTenant tenant' given') fallback').toList
  refine ⟨query', by rw [tenantUri_eq hparse hpg, hpinned'], ?_⟩
  rw [Option.getD_some, hsegments] at hadds'
  exact hadds'.length_eq hadds.exists_isOptions

/-- An empty segment, options with a value, and the name of options without one. -/
def crowdedBase : Url :=
  ⟨"postgres".toList, some ⟨"u".toList, some "p".toList, "host".toList, some 5433⟩, "/db".toList,
    some "a=b=c&&options=-x&options".toList, some "f".toList⟩

/-- Credentials, a port, a crowded query and a fragment, for a tenant in capitals. -/
theorem only_options_change_sample :
    Url.parse "postgres://u:p@host:5433/db?a=b=c&&options=-x&options#f" = .ok crowdedBase ∧
      isPostgres crowdedBase.scheme = true ∧
      ∃ query,
        tenantUri "postgres://u:p@host:5433/db?a=b=c&&options=-x&options#f" ⟨"Acme"⟩ none "public" =
          .ok ({ crowdedBase with query := some query } : Url).render ∧
        Adds (encodedOption "\"Acme\",public".toList)
          ["a=b=c".toList, "options=-x".toList, "options".toList] (pieces '&' query) := by
  have hurl : Url.parse "postgres://u:p@host:5433/db?a=b=c&&options=-x&options#f" =
      .ok crowdedBase := rfl
  have hpg : isPostgres crowdedBase.scheme = true := by decide
  obtain ⟨-, -, query, huri, -, hadds, -⟩ :=
    (only_options_change hurl ⟨"Acme"⟩ none "public").2 hpg
  exact ⟨hurl, hpg, query, huri, hadds⟩

end Tenancy.Schema
