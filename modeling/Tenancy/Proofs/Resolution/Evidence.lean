import Tenancy.Resolution

/-!
# What can name the tenant of a request

Of everything that a request, its caller and the settings say, four signals bear on the tenant:
`Evidence` holds them as they came, and `Evidence.named?` what each of them names once it is read and
checked. They are ranked, and the strongest one that names a tenant wins.

That a winner leaves the others without a say is a statement about pairs of evidence. `Altered` is
the relation it is about: the winner's signal stays, a stronger one (which named nothing) stays or is
taken away, and a weaker one may become anything at all. `winner_eq_of_altered` says that the winner
is then the same.
-/

set_option autoImplicit false

namespace Tenancy

/-- The place of a source in the order in which they are tried. -/
def Source.rank : Source → Nat
  | .header => 0
  | .subdomain => 1
  | .identityClaim => 2
  | .configuredDefault => 3
  | .none => 4

theorem Source.eq_of_rank_eq {s s' : Source} (h : s.rank = s'.rank) : s = s' := by
  cases s <;> cases s' <;> first | rfl | exact absurd h (by decide)

theorem Source.mem_all (s : Source) : s ∈ Source.all := by cases s <;> decide

/-- In front of a source stand the stronger ones. -/
theorem Source.mem_front_iff {front back : List Source} {s s' : Source}
    (h : Source.all = front ++ s :: back) : s' ∈ front ↔ s'.rank < s.rank := by
  have hsorted : Source.all.Pairwise fun a b => a.rank < b.rank := by decide
  rw [h, List.pairwise_append, List.pairwise_cons] at hsorted
  obtain ⟨-, ⟨hback, -⟩, hfront⟩ := hsorted
  refine ⟨fun hs' => hfront s' hs' s List.mem_cons_self, fun hlt => ?_⟩
  have hmem := Source.mem_all s'
  rw [h, List.mem_append, List.mem_cons] at hmem
  rcases hmem with hmem | rfl | hmem
  · exact hmem
  · exact absurd hlt (Nat.lt_irrefl _)
  · exact absurd hlt (Nat.not_lt_of_lt (hback s' hmem))

/-! ## Claims that name a tenant -/

namespace Claims

/-- The members of claims, if they read as an object. -/
def members? : Claims → Option Json.Members
  | .structured members => some members
  | .raw document =>
    match Json.parse document with
    | some (.object members) => some members
    | _ => none

/-- The tenant that claims hint at; claims that cannot be read hint at none. -/
def hint? (claims : Claims) : Option String := claims.members?.bind hintOf

/-- The value is that of the first claim that may name a tenant: those in front of it are missing or
null, and it is neither. -/
def Holds (claims : Claims) (v : Json) : Prop :=
  ∃ members, claims.members? = some members ∧
    ∃ front key back, tenantKeys = front ++ key :: back ∧
      Json.Members.get? members key = some v ∧ v ≠ .null ∧
      ∀ k ∈ front, ∀ w, Json.Members.get? members k = some w → w = .null

theorem hint_eq (claims : Claims) :
    claims.hint = match claims.members? with
      | some members => .ok (hintOf members)
      | none => .error .malformed := by
  cases claims with
  | structured members => rfl
  | raw document =>
    cases hparse : Json.parse document with
    | none => simp only [hint, members?, hparse]
    | some j => cases j <;> simp only [hint, members?, hparse]

/-- **Claims hint at the text of the first claim that may name a tenant**, and at nothing else. -/
theorem hint?_eq_some_iff {claims : Claims} {s : String} :
    claims.hint? = some s ↔ ∃ v, claims.Holds v ∧ v.plainText? = some s := by
  unfold hint? hintOf
  constructor
  · intro h
    obtain ⟨members, hmembers, hhint⟩ := Option.bind_eq_some_iff.mp h
    obtain ⟨front, key, back, hkeys, hkey, hfront⟩ := List.findSome?_eq_some_iff.mp hhint
    obtain ⟨v, hget, htext⟩ := Option.bind_eq_some_iff.mp hkey
    have hv : v ≠ .null := fun hnull => by
      rw [Json.plainText?_eq_none_iff.mpr hnull] at htext
      cases htext
    refine ⟨v, ⟨members, hmembers, front, key, back, hkeys, hget, hv, fun k hk w hw => ?_⟩, htext⟩
    exact Json.plainText?_eq_none_iff.mp (Option.bind_eq_none_iff.mp (hfront k hk) w hw)
  · rintro ⟨v, ⟨members, hmembers, front, key, back, hkeys, hget, -, hfront⟩, htext⟩
    refine Option.bind_eq_some_iff.mpr ⟨members, hmembers, List.findSome?_eq_some_iff.mpr ?_⟩
    refine ⟨front, key, back, hkeys, Option.bind_eq_some_iff.mpr ⟨v, hget, htext⟩, fun k hk => ?_⟩
    exact Option.bind_eq_none_iff.mpr fun w hw =>
      Json.plainText?_eq_none_iff.mpr (hfront k hk w hw)

end Claims

/-- What a caller's identity says is a text: the caller's own tenant, or without one the first claim
that may name a tenant. -/
def Principal.Identifies (p : Principal) (t : String) : Prop :=
  p.directTenant? = some t ∨ p.directTenant? = none ∧
    ∃ claims v, p.claims = some claims ∧ claims.Holds v ∧ v.plainText? = some t

/-- The value is an array or an object. -/
def Json.IsNested : Json → Prop
  | .array _ => True
  | .object _ => True
  | _ => False

/-- **The text of an array or of an object is no valid id**: it begins with a bracket. -/
theorem Json.not_isValidText_of_isNested {v : Json} (hv : v.IsNested) {s : String}
    (hs : v.plainText? = some s) : TenantId.isValidText s = false := by
  have hbracket : ∃ c cs, s.toList = c :: cs ∧ TenantId.isIdChar c = false := by
    cases v with
    | array items =>
      obtain rfl := Option.some.inj hs
      exact ⟨'[', _, String.toList_ofList, by decide⟩
    | object members =>
      obtain rfl := Option.some.inj hs
      exact ⟨'\x7b', _, String.toList_ofList, by decide⟩
    | _ => exact absurd hv id
  obtain ⟨c, cs, hcs, hc⟩ := hbracket
  rw [Bool.eq_false_iff]
  intro hvalid
  obtain ⟨-, -, hall⟩ := TenantId.isValidText_iff.mp hvalid
  exact absurd (hall c (hcs ▸ List.mem_cons_self)) (by simp [hc])

/-! ## Evidence -/

namespace Resolution

/-- The signals that can name a tenant, as they came: the tenant header, the host where hosts name
tenants, the caller's direct tenant and claims, and the configured default. -/
structure Evidence where
  header : Option String
  host : Option String
  direct : Option String
  claims : Option Claims
  fallback : Option String

namespace Evidence

/-- The evidence of a request. -/
def of (settings : Settings) (signals : Signals) (principal : Option Principal) : Evidence where
  header := signals.tenantHeader
  host := if settings.subdomainRouting then signals.host else none
  direct := principal.bind Principal.tenantId
  claims := principal.bind Principal.claims
  fallback := settings.defaultTenant

def nothing : Evidence := ⟨none, none, none, none, none⟩

/-- The signals of one source alone. -/
def only (e : Evidence) : Source → Evidence
  | .header => { nothing with header := e.header }
  | .subdomain => { nothing with host := e.host }
  | .identityClaim => { nothing with direct := e.direct, claims := e.claims }
  | .configuredDefault => { nothing with fallback := e.fallback }
  | .none => nothing

/-- What the caller's identity says, before it is checked: a direct tenant stands in front of all
claims, even if it turns out to be no valid id. -/
def identity? (e : Evidence) : Option String :=
  match e.direct.bind Text.nonBlank? with
  | some t => some t
  | none => e.claims.bind Claims.hint?

/-- The tenant that a source names. A header counts as it is and so does the default; labels and
identities only count if they are valid ids. -/
def named? (e : Evidence) : Source → Option String
  | .header => e.header.bind Text.nonBlank?
  | .subdomain => (e.host.bind Hostname.subdomain?).filter TenantId.isValidText
  | .identityClaim => e.identity?.filter TenantId.isValidText
  | .configuredDefault => e.fallback
  | .none => none

/-- The strongest source that names a tenant, with the tenant. -/
def winner (e : Evidence) : Option (String × Source) :=
  Source.all.findSome? fun source => (e.named? source).map fun t => (t, source)

/-- What may have become of the signals when a source has won: its own are the same, those of a
stronger source are the same or gone, and those of a weaker one may be anything. -/
def Altered (winner : Source) (e e' : Evidence) : Prop :=
  ∀ source, source.rank ≤ winner.rank →
    e'.only source = e.only source ∨ source.rank < winner.rank ∧ e'.only source = nothing

/-! ## The winner -/

variable {e e' : Evidence}

/-- A source looks at nothing but its own signals. -/
theorem named?_only (e : Evidence) (source : Source) :
    (e.only source).named? source = e.named? source := by
  cases source <;> rfl

theorem named?_nothing (source : Source) : nothing.named? source = none := by
  cases source <;> rfl

/-- **A winner is the first source that names a tenant**: it names one, and no stronger source
does. -/
theorem winner_eq_some_iff {t : String} {source : Source} :
    e.winner = some (t, source) ↔
      e.named? source = some t ∧ ∀ s : Source, s.rank < source.rank → e.named? s = none := by
  unfold winner
  rw [List.findSome?_eq_some_iff]
  constructor
  · rintro ⟨front, s, back, hall, hs, hfront⟩
    obtain ⟨t', ht, heq⟩ := Option.map_eq_some_iff.mp hs
    obtain ⟨rfl, rfl⟩ := Prod.mk.inj heq
    refine ⟨ht, fun s' hs' => ?_⟩
    exact Option.map_eq_none_iff.mp (hfront s' ((Source.mem_front_iff hall).mpr hs'))
  · rintro ⟨ht, hfront⟩
    obtain ⟨front, back, hall⟩ := List.append_of_mem (Source.mem_all source)
    refine ⟨front, source, back, hall, by rw [ht, Option.map_some], fun s hs => ?_⟩
    rw [hfront s ((Source.mem_front_iff hall).mp hs), Option.map_none]

theorem winner_eq_none_iff : e.winner = none ↔ ∀ source, e.named? source = none := by
  unfold winner
  rw [List.findSome?_eq_none_iff]
  constructor
  · intro h source
    exact Option.map_eq_none_iff.mp (h source (Source.mem_all source))
  · intro h source _
    rw [h source, Option.map_none]

/-- The source that won, or `none`. -/
def source (e : Evidence) : Source := (e.winner.map Prod.snd).getD .none

theorem source_of_winner {t : String} {s : Source} (h : e.winner = some (t, s)) :
    e.source = s := by
  simp [source, h]

theorem source_of_no_winner (h : e.winner = none) : e.source = .none := by
  simp [source, h]

/-- The tenant of the source that won is the one that it names. -/
theorem winner_eq (e : Evidence) :
    e.winner = (e.named? e.source).map fun t => (t, e.source) := by
  cases hwin : e.winner with
  | none => rw [winner_eq_none_iff.mp hwin, Option.map_none]
  | some w => rw [source_of_winner hwin, (winner_eq_some_iff.mp hwin).1, Option.map_some]

/-- No source that is stronger than the winner names a tenant. -/
theorem named?_of_rank_lt {s : Source} (h : s.rank < e.source.rank) : e.named? s = none := by
  cases hwin : e.winner with
  | none => exact winner_eq_none_iff.mp hwin s
  | some w => exact (winner_eq_some_iff.mp hwin).2 s (source_of_winner hwin ▸ h)

/-- There is no winner only if no source names a tenant. -/
theorem named?_source_eq_none_iff : e.named? e.source = none ↔ e.source = .none := by
  constructor
  · intro h
    have hwin : e.winner = none := by rw [winner_eq, h, Option.map_none]
    exact source_of_no_winner hwin
  · intro h
    rw [h]
    rfl

/-- The winner is settled by what the sources name. -/
theorem winner_congr (h : ∀ s, e.named? s = e'.named? s) : e.winner = e'.winner := by
  unfold winner
  simp only [h]

/-! ## Changes to the signals that lost -/

/-- A stronger source that names nothing names nothing after the change either. -/
theorem named?_of_altered (h : e.Altered e.source e') {s : Source}
    (hs : s.rank < e.source.rank) : e'.named? s = none := by
  rcases h s (Nat.le_of_lt hs) with h | ⟨-, h⟩
  · rw [← named?_only e', h, named?_only, named?_of_rank_lt hs]
  · rw [← named?_only e', h, named?_nothing]

/-- **The winner is the same after any change to the signals that lost.** -/
theorem winner_eq_of_altered (h : e.Altered e.source e') : e'.winner = e.winner := by
  have hself : e'.named? e.source = e.named? e.source := by
    rcases h e.source (Nat.le_refl _) with h | ⟨hlt, -⟩
    · rw [← named?_only e', h, named?_only]
    · exact absurd hlt (Nat.lt_irrefl _)
  cases hwin : e.winner with
  | some w =>
    obtain ⟨t, s⟩ := w
    rw [winner_eq_some_iff, ← source_of_winner hwin, hself]
    refine ⟨?_, fun s' hs' => named?_of_altered h hs'⟩
    rw [source_of_winner hwin]
    exact (winner_eq_some_iff.mp hwin).1
  | none =>
    -- without a winner every source is a stronger one
    rw [winner_eq_none_iff]
    intro s
    by_cases hs : s = .none
    · rw [hs]
      rfl
    · refine named?_of_altered h ?_
      rw [source_of_no_winner hwin]
      cases s <;> first | decide | exact absurd rfl hs

end Evidence

end Resolution

end Tenancy
