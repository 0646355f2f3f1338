import Tenancy.Proofs.Json.Record
import Tenancy.Proofs.Text.Utf8
import Tenancy.Settings.Document

/-!
# Settings that a document describes

A document may give the settings in any order, leave out those that are their defaults and hold
other members besides (`DescribedBy`). It is read as the settings that it describes, used or not
(`DescribedBy.readDocument?_eq`), and what the settings are printed as is one of these documents
(`exists_describedBy`).
-/

set_option autoImplicit false

namespace Tenancy.Settings

open Json

/-- The settings under their names in data, in the order they are printed. -/
def values (s : Settings) : Members :=
  [("default_tenant_id", .ofText? s.defaultTenant),
    ("enable_subdomain_routing", .bool s.subdomainRouting),
    ("impersonation_header", .text s.impersonationHeader),
    ("listings_include_unscoped", .bool s.listUnscoped),
    ("search_path_fallback_schema", .text s.fallbackSchema), ("strict_mode", .bool s.strict),
    ("tenant_header", .text s.tenantHeader),
    ("validation_cache_capacity", .ofNat s.memoCapacity)]

theorem toJson_eq (s : Settings) : toJson s = .object (values s) := by
  simp only [toJson, ofPairs, Members.ofPairs, List.foldl_cons, List.foldl_nil, Members.insert,
    String.reduceLT, String.reduceEq, reduceIte, values]

/-- A document's members that describe settings: what they say of a setting is what is printed, and
what they leave out is as it is where nothing is set. -/
structure DescribedBy (s : Settings) (ms : List (String × List Char)) : Prop where
  describes : Describes fields (toJson s).member? ms
  unset : ∀ name ∈ fieldNames fields, name ∉ ms.map (·.1) →
    (toJson s).member? name = (toJson default).member? name

theorem fits_of_mem {s : Settings} (hcapacity : s.memoCapacity ≤ Text.Natural.max64) {f : Field}
    (hf : f ∈ fields) {v : Json} (hv : (toJson s).member? f.name = some v) : Fits f.shape v := by
  rw [toJson_eq] at hv
  simp only [fields, List.mem_cons, List.not_mem_nil, or_false] at hf
  rcases hf with rfl | rfl | rfl | rfl | rfl | rfl | rfl | rfl <;> cases hv
  · exact .text _
  · exact .flag _
  · cases s.defaultTenant with
    | none => exact .noText
    | some t => exact .someText t
  · exact .text _
  · exact .flag _
  · exact .flag _
  · exact .word hcapacity
  · exact .text _

/-! ## What was found -/

section Found

variable {m : Members} {name : String}

theorem orDefault?_eq_some {α : Type} {read : Json → Option α} (write : α → Json) {x d : α}
    (hx : read (write x) = some x) (hd : read (write d) = some d)
    (h : m.get? name = some (write x) ∨ m.get? name = none ∧ write x = write d) :
    Members.orDefault? m name d read = some x := by
  unfold Members.orDefault?
  rcases h with hsome | ⟨hnone, heq⟩
  · rw [hsome]
    exact hx
  · have hsame : some x = some d := by rw [← hx, heq, hd]
    rw [hnone]
    exact hsame.symm

theorem optional?_eq_some {x : Option String}
    (h : m.get? name = some (.ofText? x) ∨ m.get? name = none ∧ Json.ofText? x = .null) :
    Members.optional? m name asText? = some x := by
  unfold Members.optional?
  rcases h with hsome | ⟨hnone, heq⟩
  · rw [hsome]
    cases x <;> rfl
  · rw [hnone]
    cases x with
    | none => rfl
    | some t => cases heq

theorem asWord?_ofNat {n : Nat} (h : n ≤ Text.Natural.max64) : asWord? (.ofNat n) = some n := by
  have hrange : 0 ≤ (n : Int) ∧ (n : Int) ≤ Number.maxWhole :=
    ⟨Int.natCast_nonneg n, Int.ofNat_le.mpr h⟩
  rw [asWord?, ofNat, asWhole?, if_pos hrange]
  rfl

end Found

namespace DescribedBy

variable {s : Settings} {ms : List (String × List Char)}

/-- What was found of a setting is its value, or nothing if that is the default's. -/
theorem get?_found (h : DescribedBy s ms) {found : Members}
    (hfound : ∀ name ∈ fieldNames fields, found.get? name =
      if name ∈ ms.map (·.1) then (toJson s).member? name else none)
    {name : String} (hname : name ∈ fieldNames fields) {v d : Json}
    (hv : (values s).get? name = some v) (hd : (values default).get? name = some d) :
    found.get? name = some v ∨ found.get? name = none ∧ v = d := by
  have hsame := h.unset name hname
  rw [toJson_eq, toJson_eq] at hsame
  rw [hfound name hname, toJson_eq]
  by_cases hmem : name ∈ ms.map (·.1)
  · exact .inl ((if_pos hmem).trans hv)
  · refine .inr ⟨if_neg hmem, Option.some.inj ?_⟩
    rw [← hv, ← hd]
    exact hsame hmem

theorem ofMembers?_eq (h : DescribedBy s ms) (hcapacity : s.memoCapacity ≤ Text.Natural.max64)
    {found : Members} (hfound : ∀ name ∈ fieldNames fields, found.get? name =
      if name ∈ ms.map (·.1) then (toJson s).member? name else none) :
    ofMembers? found = some s := by
  -- what was left out is known to be the default only as it is printed, so that is read back too
  have hdefault : default.memoCapacity ≤ Text.Natural.max64 := by decide
  have hget := @get?_found s ms h found hfound
  unfold ofMembers?
  dsimp only
  rw [orDefault?_eq_some .text rfl rfl (hget (by decide) rfl rfl),
    orDefault?_eq_some .bool rfl rfl (hget (by decide) rfl rfl),
    optional?_eq_some (x := s.defaultTenant) (hget (by decide) rfl rfl),
    orDefault?_eq_some .text rfl rfl (hget (by decide) rfl rfl),
    orDefault?_eq_some .bool rfl rfl (hget (by decide) rfl rfl),
    orDefault?_eq_some .bool rfl rfl (hget (by decide) rfl rfl),
    orDefault?_eq_some .ofNat (asWord?_ofNat hcapacity) (asWord?_ofNat hdefault)
      (hget (by decide) rfl rfl),
    orDefault?_eq_some .text rfl rfl (hget (by decide) rfl rfl)]
  rfl

theorem readDocument?_eq (h : DescribedBy s ms) (hcapacity : s.memoCapacity ≤ Text.Natural.max64) :
    readDocument? (documentChars ms) = some s := by
  have hrequired : ∀ f ∈ fields, f.presence = .required → f.name ∈ ms.map (·.1) := by
    have hnone : ∀ f ∈ fields, f.presence ≠ .required := by decide
    exact fun f hf hp => absurd hp (hnone f hf)
  obtain ⟨found, hread, hfound⟩ :=
    h.describes.exists_readRecord (fun f hf v hv => fits_of_mem hcapacity hf hv) hrequired
  rw [readDocument?, hread]
  exact h.ofMembers?_eq hcapacity hfound

theorem ofDocument_eq (h : DescribedBy s ms) (hcapacity : s.memoCapacity ≤ Text.Natural.max64) :
    ofDocument (some (Text.octets (documentChars ms))) = s.check.map fun _ => s := by
  rw [ofDocument, Text.decode_octets]
  dsimp only
  rw [ofText, h.readDocument?_eq hcapacity]

end DescribedBy

/-! ## What settings are printed as -/

/-- The settings as they are printed, members and the texts of their values. -/
def printed (s : Settings) : List (String × List Char) := (values s).map fun m => (m.1, m.2.render)

theorem render_toJson (s : Settings) : (toJson s).render = documentChars (printed s) := by
  rw [toJson_eq, render_object]
  rfl

theorem describedBy_printed (s : Settings) : DescribedBy s (printed s) := by
  have hnames : (printed s).map (·.1) = (values default).map (·.1) := rfl
  have hfield : ∀ name ∈ (values default).map (·.1), name ∈ fieldNames fields := by decide
  have hall : ∀ name ∈ fieldNames fields, name ∈ (values default).map (·.1) := by decide
  refine ⟨⟨fun m hm _ => ?_, fun m hm hother => ?_, ?_⟩, fun name hname hmem => ?_⟩
  · rw [toJson_eq]
    simp only [printed, values, List.map_cons, List.map_nil, List.mem_cons, List.not_mem_nil,
      or_false] at hm
    rcases hm with rfl | rfl | rfl | rfl | rfl | rfl | rfl | rfl <;> exact ⟨_, rfl, rfl⟩
  · exact absurd (hfield m.1 (hnames ▸ List.mem_map_of_mem hm)) hother
  · have hdistinct : ((printed s).map (·.1)).Nodup := by
      rw [hnames]
      decide
    exact (List.pairwise_map.mp hdistinct).imp fun hne heq => absurd heq hne
  · exact absurd (hnames ▸ hall name hname) hmem

end Tenancy.Settings
