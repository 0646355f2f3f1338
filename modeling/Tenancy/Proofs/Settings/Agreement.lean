import Tenancy.Proofs.Settings.Document
import Tenancy.Proofs.Settings.Variables

/-!
# Settings from either source

Variables and documents are read in different ways, but what was read goes through one check. So
neither source gives settings that cannot be used, and settings that both of them describe come out
of both, or fail in both with what the check says of them (`sources_agree`).
-/

set_option autoImplicit false

namespace Tenancy.Settings

open Json Text

theorem check_of_ofVariables {lookup : String → Option String} {s : Settings}
    (h : ofVariables lookup = .ok s) : s.check = .ok () := by
  unfold ofVariables at h
  cases hread : readVariables lookup with
  | error e =>
    rw [hread] at h
    cases h
  | ok s' =>
    rw [hread] at h
    cases hcheck : s'.check with
    | error e => simp [bind, Except.bind, hcheck] at h
    | ok =>
      obtain rfl : s' = s := by simpa [bind, Except.bind, hcheck, pure, Except.pure] using h
      exact hcheck

theorem check_of_ofText {cs : List Char} {s : Settings} (h : ofText cs = .ok s) :
    s.check = .ok () := by
  unfold ofText at h
  split at h
  · cases h
  · next s' _ =>
    cases hcheck : s'.check with
    | error e => simp [Except.map, hcheck] at h
    | ok =>
      obtain rfl : s' = s := by simpa [Except.map, hcheck] using h
      exact hcheck

theorem check_of_ofDocument {document : Option (List UInt8)} {s : Settings}
    (h : ofDocument document = .ok s) : s.check = .ok () := by
  unfold ofDocument at h
  split at h
  · cases h
  · split at h
    · cases h
    · exact check_of_ofText h

/-- What the sources owe to the check: settings that it passes come out as they are, and those that
it does not pass fail as it says. -/
structure SourcesAgree (s : Settings) : Prop where
  passed : s.check = .ok () →
    (∀ lookup, SpelledOut s lookup → ofVariables lookup = .ok s) ∧
    (∀ ms, DescribedBy s ms → ofDocument (some (octets (documentChars ms))) = .ok s) ∧
    ofDocument (some (octets (toJson s).render)) = .ok s
  failed : ∀ e, Trimmed s → s.check = .error e →
    (∃ key reason, e = .invalid key reason) ∧
    (∀ lookup, SpelledOut s lookup → ofVariables lookup = .error e) ∧
    (∀ ms, DescribedBy s ms → ofDocument (some (octets (documentChars ms))) = .error e) ∧
    ofDocument (some (octets (toJson s).render)) = .error e

/-- **Both sources give usable settings only, and agree on all settings that they can describe.**

The second part is about every capacity of one word. Texts that lose something when they are trimmed
can be said in a document only, and the same goes for a blank default tenant; settings that pass the
check have neither. -/
theorem sources_agree :
    (∀ (lookup : String → Option String) (s : Settings),
      ofVariables lookup = .ok s → s.check = .ok ()) ∧
    (∀ (document : Option (List UInt8)) (s : Settings),
      ofDocument document = .ok s → s.check = .ok ()) ∧
    ∀ s : Settings, s.memoCapacity ≤ Natural.max64 → SourcesAgree s := by
  refine ⟨fun _ _ => check_of_ofVariables, fun _ _ => check_of_ofDocument, fun s hcapacity => ?_⟩
  have hdocument : ∀ ms, DescribedBy s ms →
      ofDocument (some (octets (documentChars ms))) = s.check.map fun _ => s :=
    fun ms h => h.ofDocument_eq hcapacity
  have hprinted := hdocument (printed s) (describedBy_printed s)
  rw [← render_toJson] at hprinted
  refine ⟨fun hcheck => ?_, fun e htrimmed hcheck => ⟨exists_invalid_of_check hcheck, ?_⟩⟩
  · have htrimmed := trimmed_of_check hcheck
    rw [hcheck] at hdocument hprinted
    refine ⟨fun lookup h => ?_, hdocument, hprinted⟩
    rw [h.ofVariables_eq htrimmed hcapacity, hcheck]
    rfl
  · rw [hcheck] at hdocument hprinted
    refine ⟨fun lookup h => ?_, hdocument, hprinted⟩
    rw [h.ofVariables_eq htrimmed hcapacity, hcheck]
    rfl

/-! ## A sample -/

/-- Settings with the greatest capacity there is. -/
def sampleSettings : Settings :=
  ⟨"X-Org", true, some "acme", "X-Act-As", false, true, Natural.max64, "shared"⟩

/-- Variables that spell them out; strictness is left to the default. -/
def sampleVariables (name : String) : Option String :=
  [("TENANT_HEADER", "X-Org"), ("ENABLE_SUBDOMAIN_TENANT_ROUTING", " YeS\t"),
    ("DEFAULT_TENANT_ID", "acme"), ("TENANT_IMPERSONATION_HEADER", "X-Act-As"),
    ("TENANT_LISTINGS_INCLUDE_UNSCOPED", "ON"),
    ("TENANT_VALIDATION_CACHE_CAPACITY", "18446744073709551615"),
    ("TENANT_FALLBACK_SCHEMA", "shared")].lookup name

/-- A member that is no setting, with a value that nests. -/
def sampleNote : String × List Char := ("note", "[1, \x7b\"a\": null\x7d]".toList)

/-- Members of a document that describe them, strictness left out. -/
def sampleMembers : List (String × List Char) :=
  [("tenant_header", "\"X-Org\"".toList), ("enable_subdomain_routing", "true".toList), sampleNote,
    ("default_tenant_id", "\"acme\"".toList), ("impersonation_header", "\"X-Act-As\"".toList),
    ("listings_include_unscoped", "true".toList),
    ("validation_cache_capacity", "18446744073709551615".toList),
    ("search_path_fallback_schema", "\"shared\"".toList), sampleNote]

/-- Settings without a memo, and with a schema whose name is too short. -/
def sampleFault : Settings := { sampleSettings with memoCapacity := 0, fallbackSchema := "x" }

/-- What the check says first of these. -/
def capacityFault : SettingsError :=
  .invalid "validation_cache_capacity" "must be greater than zero"

theorem spelledOut_sample : SpelledOut sampleSettings sampleVariables := by
  have hyes : SpellsFlag true (" " ++ ("YeS" ++ "\t")) :=
    @SpellsFlag.intro true "yes" " " "YeS" "\t" (by decide) (forall_mem_of_all (by decide))
      (by decide) (forall_mem_of_all (by decide))
  have hon : SpellsFlag true ("" ++ ("ON" ++ "")) :=
    @SpellsFlag.intro true "on" "" "ON" "" (by decide) (by simp) (by decide) (by simp)
  refine ⟨fun v raw hraw => ?_, fun v hnone => ?_⟩
  · cases v <;> cases hraw
    · rfl
    · exact hyes
    · rfl
    · rfl
    · exact hon
    · rfl
    · rfl
  · cases v <;> cases hnone
    rfl

theorem isValue_sampleNote : IsValue (tokens sampleNote.2) := by
  have hobject : Derives .value [.openObject, .text "a", .colon, .null, .closeObject] :=
    @Derives.object (.text "a") [.null] [.closeObject] trivial (.scalar trivial) .endObject
  have hmore : Derives .moreItems
      [.comma, .openObject, .text "a", .colon, .null, .closeObject, .closeArray] :=
    @Derives.item _ [.closeArray] hobject .endArray
  exact @Derives.array [.number (.whole 1)] _ (.scalar trivial) hmore

theorem describedBy_sample : DescribedBy sampleSettings sampleMembers := by
  refine ⟨⟨fun m hm hfield => ?_, fun m hm hother => ?_, ?_⟩, fun name hname hmem => ?_⟩
  · rw [toJson_eq]
    simp only [sampleMembers, List.mem_cons, List.not_mem_nil, or_false] at hm
    rcases hm with rfl | rfl | rfl | rfl | rfl | rfl | rfl | rfl | rfl
    · exact ⟨_, rfl, rfl⟩
    · exact ⟨_, rfl, rfl⟩
    · exact absurd hfield (by decide)
    · exact ⟨_, rfl, rfl⟩
    · exact ⟨_, rfl, rfl⟩
    · exact ⟨_, rfl, rfl⟩
    · exact ⟨_, rfl, rfl⟩
    · exact ⟨_, rfl, rfl⟩
    · exact absurd hfield (by decide)
  · have hnote : ∀ m ∈ sampleMembers, m.1 ∉ fieldNames fields → m = sampleNote := by decide
    rw [hnote m hm hother]
    exact isValue_sampleNote
  · have honce : sampleMembers.Pairwise fun a b => a.1 = b.1 → a.1 ∉ fieldNames fields := by decide
    exact honce
  · have hstrict : ∀ name ∈ fieldNames fields, name ∉ sampleMembers.map (·.1) →
        name = "strict_mode" := by
      decide
    rw [hstrict name hname hmem, toJson_eq, toJson_eq]
    rfl

theorem sources_agree_sample :
    sampleSettings.memoCapacity ≤ Natural.max64 ∧ sampleSettings.check = .ok () ∧
      SpelledOut sampleSettings sampleVariables ∧ DescribedBy sampleSettings sampleMembers ∧
      ofVariables sampleVariables = .ok sampleSettings ∧
      ofDocument (some (octets (documentChars sampleMembers))) = .ok sampleSettings ∧
      Trimmed sampleFault ∧ sampleFault.check = .error capacityFault ∧
      ofVariables (writtenOut sampleFault) = .error capacityFault ∧
      ofDocument (some (octets (toJson sampleFault).render)) = .error capacityFault := by
  have hcapacity : sampleSettings.memoCapacity ≤ Natural.max64 := Nat.le_refl _
  have hcheck : sampleSettings.check = .ok () := rfl
  have hpassed := (sources_agree.2.2 sampleSettings hcapacity).passed hcheck
  have hvariables := hpassed.1 sampleVariables spelledOut_sample
  have hfault : sampleFault.check = .error capacityFault := rfl
  have htrimmed : Trimmed sampleFault := by
    refine ⟨trim_of_isHeaderName (by decide), trim_of_isHeaderName (by decide),
      trim_eq_self (forall_mem_of_all (by decide)), ?_, ?_⟩
    · rintro _ ⟨⟩
      exact trim_of_isValidText (by decide)
    · rintro _ ⟨⟩
      decide
  have hfailed := (sources_agree.2.2 sampleFault (Nat.zero_le _)).failed _ htrimmed hfault
  refine ⟨hcapacity, sources_agree.1 _ _ hvariables, spelledOut_sample, describedBy_sample,
    hvariables, hpassed.2.1 sampleMembers describedBy_sample, htrimmed, hfault,
    hfailed.2.1 _ (spelledOut_writtenOut sampleFault), hfailed.2.2.2⟩

end Tenancy.Settings
