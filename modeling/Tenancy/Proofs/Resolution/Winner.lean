import Tenancy.Proofs.Resolution.Steps
import Tenancy.Proofs.Settings.Check
import Tenancy.Proofs.Text.LowerCase

/-!
# One signal wins

Each of the four signals has rules of its own: a header counts as it is, a label and an identity only
count if they are valid ids, and the default was checked with the settings. Whichever wins, its own
rule is all that the outcome owes to it, and the others have no say: `Picks` says both of one
request, and `picks_strongest` of every request under settings that can be used, whatever the memo
remembers as long as it remembers right answers.
-/

set_option autoImplicit false

namespace Tenancy

namespace Hostname

/-- What a host names is in lower case and not reserved. -/
theorem of_subdomain? {host t : String} (h : subdomain? host = some t) :
    (∀ c ∈ t.toList, c.isUpper = false) ∧ t ∉ reserved := by
  unfold subdomain? subdomainOf? at h
  split at h
  · exact absurd h (by simp)
  · split at h
    · unfold label? at h
      dsimp only at h
      split at h
      · exact absurd h (by simp)
      · next hlabel =>
        obtain rfl := Option.some.inj h
        rw [Bool.not_eq_true, Bool.or_eq_false_iff] at hlabel
        refine ⟨fun c hc => ?_, fun hmem => ?_⟩
        · rw [String.toList_ofList] at hc
          exact Text.not_isUpper_of_mem_lowerChars hc
        · exact Bool.false_ne_true (hlabel.2.symm.trans (List.contains_iff_mem.mpr hmem))
    · exact absurd h (by simp)

/-- A valid id that a host names is no reserved label in any spelling. -/
theorem lower_not_mem_reserved {host t : String} (h : subdomain? host = some t)
    (hvalid : TenantId.isValidText t = true) : Text.lower t ∉ reserved := by
  obtain ⟨hlower, hreserved⟩ := of_subdomain? h
  rwa [Text.lower_eq_self hvalid hlower]

end Hostname

namespace Resolution

/-- The context that a request is resolved to, from a memo. -/
def context (settings : Settings) (now : Instant) (signals : Signals)
    (principal : Option Principal) (memo : TenantId.Memo) : Context :=
  ((resolve settings now signals principal).run memo).value.1

theorem context_eq {settings : Settings} {now : Instant} {signals : Signals}
    {principal : Option Principal} {memo : TenantId.Memo} (hmemo : memo.Sound) :
    context settings now signals principal memo =
      contextOf now (Evidence.of settings signals principal).winner :=
  (yields_resolve now memo hmemo).1

/-! ## What a winner is like -/

namespace Evidence

variable {e : Evidence} {now : Instant} {t : String}

theorem source_contextOf : (contextOf now e.winner).source = e.source := by
  unfold source
  rcases e.winner with _ | ⟨t, s⟩ <;> rfl

theorem tenant_contextOf :
    (contextOf now e.winner).tenant = (e.named? e.source).map TenantId.mk := by
  rw [winner_eq e]
  cases e.named? e.source <;> rfl

/-- A source that names a tenant is beaten by stronger ones only. -/
theorem rank_source_le {s : Source} (h : e.named? s ≠ none) : e.source.rank ≤ s.rank :=
  Nat.le_of_not_lt fun hlt => h (named?_of_rank_lt hlt)

theorem source_eq_header_iff : e.source = .header ↔ e.named? .header ≠ none := by
  constructor
  · intro h
    rw [← h, ne_eq, named?_source_eq_none_iff, h]
    decide
  · intro h
    have hrank : e.source.rank ≤ 0 := rank_source_le h
    cases hs : e.source with
    | header => rfl
    | _ =>
      rw [hs] at hrank
      exact absurd hrank (by decide)

end Evidence

theorem nonBlank?_eq_some_iff {s t : String} :
    Text.nonBlank? s = some t ↔ Text.trim s ≠ "" ∧ Text.trim s = t := by
  unfold Text.nonBlank?
  by_cases h : Text.trim s = ""
  · simp [h]
  · simp [h]

/-! ## What is picked -/

/-- What the context of a request owes to the signal that won, and that it owes nothing else.

The rules of the four signals come first. Then the winner is the strongest source that names a tenant
at all; and with the winner's signal as it was, the others make no difference, nor does anything else
that the settings, the request, the caller or the memo hold. -/
structure Picks (settings : Settings) (signals : Signals) (principal : Option Principal)
    (c : Context) : Prop where
  none_iff : c.source = .none ↔ c.tenant = none
  header_iff : c.source = .header ↔
    ∃ header, signals.tenantHeader = some header ∧ Text.trim header ≠ ""
  header : ∀ header, signals.tenantHeader = some header → Text.trim header ≠ "" →
    c.tenant = some ⟨Text.trim header⟩
  valid : ∀ t, c.tenant = some t → c.source ≠ .header → t.isValid = true
  subdomain : c.source = .subdomain → settings.subdomainRouting = true ∧
    ∀ t, c.tenant = some t → Text.lower t.text ∉ Hostname.reserved
  /-- An identity is the caller's own tenant, or the first claim that may name one, which is neither
  an array nor an object. -/
  identity : c.source = .identityClaim → ∃ p t, principal = some p ∧ c.tenant = some t ∧
    (p.directTenant? = some t.text ∨ ∃ claims v, p.claims = some claims ∧ claims.Holds v ∧
      ¬v.IsNested ∧ v.plainText? = some t.text)
  /-- A valid id that is the caller's own tenant, or without one the first claim, is passed over for a
  header or a host only. -/
  usable : ∀ p t, principal = some p → p.Identifies t → TenantId.isValidText t = true →
    c.source.rank < Source.identityClaim.rank ∨ c.source = .identityClaim ∧ c.tenant = some ⟨t⟩
  /-- The text of no array and of no object is the tenant, unless a header spells it out. -/
  nested : ∀ v : Json, v.IsNested → ∀ s, v.plainText? = some s → c.source ≠ .header →
    c.tenant ≠ some ⟨s⟩
  strongest : c.tenant =
      ((Evidence.of settings signals principal).named? c.source).map TenantId.mk ∧
    ∀ s : Source, s.rank < c.source.rank → (Evidence.of settings signals principal).named? s = none
  /-- The stronger signals may as well be missing, and the weaker ones may be anything. -/
  alone : ∀ (settings' : Settings) (now' : Instant) (signals' : Signals)
    (principal' : Option Principal) (memo' : TenantId.Memo), memo'.Sound →
    (Evidence.of settings signals principal).Altered c.source
      (Evidence.of settings' signals' principal') →
    (context settings' now' signals' principal' memo').tenant = c.tenant ∧
      (context settings' now' signals' principal' memo').source = c.source

section Picks

variable {settings : Settings} {now : Instant} {signals : Signals} {principal : Option Principal}
  {memo : TenantId.Memo} {s : Source} {t : String}

/-- What a signal other than the header names is a valid id, if the settings were checked. -/
theorem isValidText_of_named? (hsettings : settings.check = .ok ()) (hs : s ≠ .header)
    (h : (Evidence.of settings signals principal).named? s = some t) :
    TenantId.isValidText t = true := by
  cases s with
  | header => exact absurd rfl hs
  | subdomain => exact (Option.filter_eq_some_iff.mp h).2
  | identityClaim => exact (Option.filter_eq_some_iff.mp h).2
  | configuredDefault => exact (Settings.check_eq_ok_iff.mp hsettings).2.2.1 t h
  | none => exact absurd h (by simp [Evidence.named?])

theorem named?_header_eq_some_iff :
    (Evidence.of settings signals principal).named? .header = some t ↔
      ∃ header, signals.tenantHeader = some header ∧ Text.trim header ≠ "" ∧
        Text.trim header = t := by
  show signals.tenantHeader.bind Text.nonBlank? = some t ↔ _
  simp only [Option.bind_eq_some_iff, nonBlank?_eq_some_iff]

theorem of_named?_subdomain
    (h : (Evidence.of settings signals principal).named? .subdomain = some t) :
    settings.subdomainRouting = true ∧ Text.lower t ∉ Hostname.reserved := by
  obtain ⟨hlabel, hvalid⟩ := Option.filter_eq_some_iff.mp h
  obtain ⟨host, hhost, hlabel⟩ := Option.bind_eq_some_iff.mp hlabel
  refine ⟨?_, Hostname.lower_not_mem_reserved hlabel hvalid⟩
  cases hrouting : settings.subdomainRouting with
  | true => rfl
  | false => exact absurd hhost (by simp [Evidence.of, hrouting])

theorem of_named?_identityClaim
    (h : (Evidence.of settings signals principal).named? .identityClaim = some t) :
    ∃ p, principal = some p ∧ (p.directTenant? = some t ∨
      ∃ claims v, p.claims = some claims ∧ claims.Holds v ∧ ¬v.IsNested ∧
        v.plainText? = some t) := by
  obtain ⟨hidentity, hvalid⟩ := Option.filter_eq_some_iff.mp h
  unfold Evidence.identity? Evidence.of at hidentity
  cases principal with
  | none => exact absurd hidentity (by simp)
  | some p =>
    refine ⟨p, rfl, ?_⟩
    simp only [Option.bind_some] at hidentity
    split at hidentity
    · next hdirect => exact .inl (hdirect.trans hidentity)
    · obtain ⟨claims, hclaims, hhint⟩ := Option.bind_eq_some_iff.mp hidentity
      obtain ⟨v, hv, htext⟩ := Claims.hint?_eq_some_iff.mp hhint
      refine .inr ⟨claims, v, hclaims, hv, fun hnested => ?_, htext⟩
      rw [Json.not_isValidText_of_isNested hnested htext] at hvalid
      exact absurd hvalid (by simp)

theorem named?_identityClaim_of_identifies {p : Principal} (hp : principal = some p)
    (h : p.Identifies t) (hvalid : TenantId.isValidText t = true) :
    (Evidence.of settings signals principal).named? .identityClaim = some t := by
  refine Option.filter_eq_some_iff.mpr ⟨?_, hvalid⟩
  have hdirect : (Evidence.of settings signals principal).direct.bind Text.nonBlank? =
      p.directTenant? := by
    rw [hp]
    rfl
  have hclaims : (Evidence.of settings signals principal).claims = p.claims := by
    rw [hp]
    rfl
  unfold Evidence.identity?
  rw [hdirect, hclaims]
  rcases h with hown | ⟨hnone, claims, v, hgiven, hv, htext⟩
  · rw [hown]
  · rw [hnone, hgiven]
    exact Claims.hint?_eq_some_iff.mpr ⟨v, hv, htext⟩

/-- **Resolution picks the strongest signal that names a tenant, by its own rule, and ignores the
rest.** -/
theorem picks_strongest (hsettings : settings.check = .ok ()) (hmemo : memo.Sound) :
    Picks settings signals principal (context settings now signals principal memo) ∧
      ((resolve settings now signals principal).run memo).value.2.Sound := by
  refine ⟨?_, (yields_resolve now memo hmemo).2⟩
  have htenant : (contextOf now (Evidence.of settings signals principal).winner).tenant = _ :=
    Evidence.tenant_contextOf
  have hsource : (contextOf now (Evidence.of settings signals principal).winner).source = _ :=
    Evidence.source_contextOf
  rw [← context_eq hmemo] at htenant hsource
  generalize context settings now signals principal memo = c at htenant hsource
  -- whatever the tenant is, it is what the signal of the source names
  rw [← hsource] at htenant
  have hnamed : ∀ t, c.tenant = some t →
      (Evidence.of settings signals principal).named? c.source = some t.text := by
    intro t ht
    obtain ⟨text, htext, rfl⟩ := Option.map_eq_some_iff.mp (htenant.symm.trans ht)
    exact htext
  have hvalid : ∀ t, c.tenant = some t → c.source ≠ .header → t.isValid = true := fun t ht hs =>
    isValidText_of_named? hsettings hs (hnamed t ht)
  have hheader : c.source = .header ↔
      ∃ header, signals.tenantHeader = some header ∧ Text.trim header ≠ "" := by
    rw [hsource, Evidence.source_eq_header_iff, Option.ne_none_iff_exists']
    simp only [named?_header_eq_some_iff]
    constructor
    · rintro ⟨t, header, hh, hne, -⟩
      exact ⟨header, hh, hne⟩
    · rintro ⟨header, hh, hne⟩
      exact ⟨_, header, hh, hne, rfl⟩
  have hnone : c.source = .none ↔ c.tenant = none := by
    rw [htenant, Option.map_eq_none_iff, hsource, Evidence.named?_source_eq_none_iff]
  refine
    { none_iff := hnone
      header_iff := hheader
      header := fun header hh hne => ?_
      valid := hvalid
      subdomain := fun hs => ?_
      identity := fun hs => ?_
      usable := fun p t hp hidentity hid => ?_
      nested := fun v hv s hs hother ht => ?_
      strongest := ⟨htenant, fun s hs => Evidence.named?_of_rank_lt (hsource ▸ hs)⟩
      alone := fun settings' now' signals' principal' memo' hmemo' halt => ?_ }
  · rw [htenant, hheader.mpr ⟨header, hh, hne⟩,
      named?_header_eq_some_iff.mpr ⟨header, hh, hne, rfl⟩, Option.map_some]
  · cases ht : c.tenant with
    | none => exact absurd (hnone.mpr ht) (by simp [hs])
    | some t =>
      obtain ⟨hrouting, hreserved⟩ := of_named?_subdomain (hs ▸ hnamed t ht)
      exact ⟨hrouting, fun t' ht' => Option.some.inj ht' ▸ hreserved⟩
  · cases ht : c.tenant with
    | none => exact absurd (hnone.mpr ht) (by simp [hs])
    | some t =>
      obtain ⟨p, hp, hidentity⟩ := of_named?_identityClaim (hs ▸ hnamed t ht)
      exact ⟨p, t, hp, rfl, hidentity⟩
  · have hidentified : (Evidence.of settings signals principal).named? .identityClaim = some t :=
      named?_identityClaim_of_identifies hp hidentity hid
    have hrank : c.source.rank ≤ Source.identityClaim.rank := by
      rw [hsource]
      exact Evidence.rank_source_le (by simp [hidentified])
    rcases Nat.lt_or_eq_of_le hrank with hlt | heq
    · exact .inl hlt
    · have hs : c.source = .identityClaim := Source.eq_of_rank_eq heq
      exact .inr ⟨hs, by rw [htenant, hs, hidentified, Option.map_some]⟩
  · have hid : TenantId.isValidText s = true := hvalid ⟨s⟩ ht hother
    rw [Json.not_isValidText_of_isNested hv hs] at hid
    exact absurd hid (by simp)
  · have hwinner := Evidence.winner_eq_of_altered (hsource ▸ halt)
    rw [context_eq hmemo', hwinner, Evidence.tenant_contextOf, Evidence.source_contextOf, htenant,
      hsource]
    exact ⟨rfl, rfl⟩

end Picks

/-- A request whose header is blank, whose host names a reserved label, and whose caller comes with
claims the first of which is null and the second an array: the default is left. -/
theorem picks_strongest_sample :
    let settings := { Settings.default with
      subdomainRouting := true, defaultTenant := some "fallback" }
    let signals : Signals := ⟨some "WWW.example.com:8080", some " \t ", some "globex"⟩
    let principal := (Principal.plain "bob" .standard).withClaims
      (.structured [("org_id", .text "org9"), ("tenant", .array [.text "acme"]),
        ("tenant_id", .null)])
    let c := context settings default signals (some principal) (.empty 2)
    settings.check = .ok () ∧ (TenantId.Memo.empty 2).Sound ∧
      c.tenant = some ⟨"fallback"⟩ ∧ c.source = .configuredDefault ∧
      Picks settings signals (some principal) c :=
  ⟨rfl, TenantId.Memo.sound_empty 2, by decide, by decide,
    (picks_strongest rfl (TenantId.Memo.sound_empty 2)).1⟩

end Resolution

end Tenancy
