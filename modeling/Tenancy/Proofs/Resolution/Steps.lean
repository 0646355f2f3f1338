import Tenancy.Proofs.Resolution.Evidence

/-!
# What the steps of resolution yield

A step of resolution goes through the memo and leaves events, so what it answers could depend on
either. It depends on neither: `Yields` says that a step gives one and the same answer from every
memo whose answers are right, and that the memo it leaves is of that kind again. Each step has one
lemma that says what it yields in terms of the evidence, and whoever runs several steps puts these
lemmas together by `Yields.bind`.
-/

set_option autoImplicit false

namespace Tenancy

open TenantId

namespace TenantId.Memo

variable {memo : Memo} {candidate : String} {answer : Bool}

theorem check_of_some (h : memo.find? candidate = some answer) :
    memo.check candidate = (answer, memo.remember candidate answer) := by
  unfold check
  rw [h]

theorem check_of_none (h : memo.find? candidate = none) :
    memo.check candidate =
      (isValidText candidate, memo.remember candidate (isValidText candidate)) := by
  unfold check
  rw [h]

theorem Sound.find?_eq (hmemo : memo.Sound) (h : memo.find? candidate = some answer) :
    answer = isValidText candidate := by
  obtain ⟨front, back, hanswers, -⟩ := List.lookup_eq_some_iff.mp h
  refine hmemo (candidate, answer) ?_
  rw [hanswers]
  exact List.mem_append_right _ List.mem_cons_self

theorem Sound.forget (h : memo.Sound) (candidate : String) : (memo.forget candidate).Sound :=
  fun p hp => h p (List.mem_filter.mp hp).1

/-- Checking an id against a memo of right answers gives the rule's answer, and the memo after it is
right as well. -/
theorem Sound.check (h : memo.Sound) (candidate : String) :
    (memo.check candidate).1 = isValidText candidate ∧ (memo.check candidate).2.Sound := by
  cases hfind : memo.find? candidate with
  | none =>
    rw [check_of_none hfind]
    exact ⟨rfl, h.remember candidate⟩
  | some answer =>
    obtain rfl := h.find?_eq hfind
    rw [check_of_some hfind]
    exact ⟨rfl, h.remember candidate⟩

/-- A value is an id if it is a text and the rule says so. -/
theorem Sound.checkValue (h : memo.Sound) (v : Json) :
    ((memo.checkValue v).1 = true ↔ ∃ s, v = .text s ∧ isValidText s = true) ∧
      (memo.checkValue v).2.Sound := by
  unfold Memo.checkValue
  cases v with
  | text s =>
    obtain ⟨hanswer, hsound⟩ := h.check s
    refine ⟨?_, hsound⟩
    show (memo.check s).1 = true ↔ _
    simp [hanswer]
  | null | bool | number | array | object => exact ⟨by simp [Json.asText?], h⟩

end TenantId.Memo

namespace Resolution

/-- From every memo of right answers, the step answers `a` and leaves such a memo. -/
def Yields {α : Type} (x : Step α) (a : α) : Prop :=
  ∀ memo : Memo, memo.Sound → (x.run memo).value.1 = a ∧ (x.run memo).value.2.Sound

section Rules

variable {α β : Type} {x : Step α} {f : α → Step β} {a : α} {b : β}

theorem yields_pure (a : α) : Yields (pure a) a := fun _ h => ⟨rfl, h⟩

theorem yields_note (e : Event) : Yields (note e) ⟨⟩ := fun _ h => ⟨rfl, h⟩

theorem Yields.bind (hx : Yields x a) (hf : Yields (f a) b) : Yields (x >>= f) b := by
  intro memo hmemo
  obtain ⟨ha, hmemo'⟩ := hx memo hmemo
  have hb := hf _ hmemo'
  rw [← ha] at hb
  exact hb

theorem yields_isValid (candidate : String) : Yields (isValid candidate) (isValidText candidate) :=
  fun _ h => h.check candidate

end Rules

/-! ## The steps, one by one -/

theorem yields_ifValid (candidate : String) (otherwise : Event) :
    Yields (ifValid candidate otherwise) ((some candidate).filter isValidText) := by
  refine (yields_isValid candidate).bind ?_
  rw [Option.filter_some]
  cases isValidText candidate with
  | true => exact yields_pure _
  | false => exact (yields_note otherwise).bind (yields_pure _)

variable {settings : Settings} {signals : Signals} {principal : Option Principal}

theorem yields_subdomainCandidate :
    Yields (subdomainCandidate settings signals)
      ((Evidence.of settings signals principal).named? .subdomain) := by
  unfold subdomainCandidate Evidence.named? Evidence.of
  cases settings.subdomainRouting with
  | false => exact yields_pure _
  | true =>
    simp only [if_true]
    cases signals.host.bind Hostname.subdomain? with
    | none => exact yields_pure _
    | some label => exact yields_ifValid label _

theorem yields_identityHint (p : Principal) :
    Yields (identityHint p) (Evidence.of settings signals (some p)).identity? := by
  unfold identityHint Principal.directTenant? Evidence.identity? Evidence.of
  simp only [Option.bind_some]
  cases p.tenantId.bind Text.nonBlank? with
  | some t => exact yields_pure _
  | none =>
    cases p.claims with
    | none => exact yields_pure _
    | some claims =>
      simp only [Option.bind_some, Claims.hint_eq, Claims.hint?]
      cases claims.members? with
      | some members => exact yields_pure _
      -- claims that cannot be read leave a warning and hint at nothing
      | none => exact (yields_note _).bind (yields_pure _)

theorem yields_identityCandidate :
    Yields (identityCandidate principal)
      ((Evidence.of settings signals principal).named? .identityClaim) := by
  cases principal with
  | none => exact yields_pure _
  | some p =>
    have hhint : Yields (identityHint p) (Evidence.of settings signals (some p)).identity? :=
      yields_identityHint p
    refine hhint.bind ?_
    unfold Evidence.named?
    cases (Evidence.of settings signals (some p)).identity? with
    | none => exact yields_pure _
    | some hint => exact yields_ifValid hint _

/-- **The candidate that resolution settles on is the winner of the evidence.** -/
theorem yields_candidate :
    Yields (candidate settings signals principal)
      (Evidence.of settings signals principal).winner := by
  generalize he : Evidence.of settings signals principal = e
  have hheader : headerCandidate signals = e.named? .header := by
    rw [← he]
    rfl
  have hdefault : settings.defaultTenant = e.named? .configuredDefault := by
    rw [← he]
    rfl
  unfold candidate Evidence.winner
  rw [hheader, hdefault]
  simp only [Source.all, List.findSome?_cons, List.findSome?_nil]
  cases e.named? .header with
  | some t => exact yields_pure _
  | none =>
    refine (he ▸ yields_subdomainCandidate).bind ?_
    cases e.named? .subdomain with
    | some t => exact yields_pure _
    | none =>
      refine (he ▸ yields_identityCandidate).bind ?_
      cases e.named? .identityClaim with
      | some t => exact yields_pure _
      | none => cases e.named? .configuredDefault <;> exact yields_pure _

/-- The context that a winner, or its absence, leads to. -/
def contextOf (now : Instant) : Option (String × Source) → Context
  | some (t, source) => .resolved ⟨t⟩ source now
  | none => .unresolved now

theorem yields_resolve (now : Instant) :
    Yields (resolve settings now signals principal)
      (contextOf now (Evidence.of settings signals principal).winner) := by
  unfold resolve
  refine yields_candidate.bind ?_
  rcases (Evidence.of settings signals principal).winner with _ | ⟨t, source⟩
  · exact (yields_note _).bind (yields_pure _)
  · exact (yields_note _).bind (yields_pure _)

end Resolution

end Tenancy
