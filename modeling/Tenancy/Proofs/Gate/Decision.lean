import Tenancy.Proofs.Gate.Check

/-!
# What the gate answers, by every way into it

Every question to the gate is put to the tenant check first. The check looks along the chain of
owners, however long it is and whichever of its members can carry a label, and its decision can be
said without the chain's order (`Gate.Decides`). What it does not deny is up to the base policy, and
the gate neither adds to the policy's answer nor asks for it twice.

To say how often a policy is asked, the questions to it are written down: `Policy.asked` answers as
the policy does and leaves a record of each question.
-/

set_option autoImplicit false

namespace Tenancy

/-! ## A policy whose questions are written down -/

/-- Computations in which questions to a policy are written down, the first one first. -/
abbrev Asking := StateT (List (Scope × Resource)) Logged

/-- The answer of a policy, with the question written down. -/
def Policy.asked (policy : Policy) (scope : Scope) (r : Resource) : Asking Bool := do
  modify fun questions => questions ++ [(scope, r)]
  return policy.canAccess scope r

/-! ## The check as a decision on the chain -/

theorem tenantCheck_eq_allow_iff {scope : Scope} {t : TenantId} (h : scope.tenant = some t)
    (r : Resource) : tenantCheck scope r = .allow ↔ ¬∃ f ∈ r.chain, f.Foreign t := by
  rw [← tenantCheck_eq_deny_iff h r]
  cases hc : tenantCheck scope r with
  | allow => simp
  | deny => simp
  | notApplicable => exact absurd hc (tenantCheck_ne_notApplicable h r)

namespace Gate

variable {gate : Gate} {scope : Scope} {r : Resource}

/-! ## The answers, by what the check decides -/

theorem consult_of_deny {m : Type → Type} [Monad m] [Logging m] (ask : Scope → Resource → m Bool)
    (h : tenantCheck scope r = .deny) :
    consult ask scope r = do
      note (.accessDenied r.item.kind r.item.id)
      return false := by
  unfold consult
  rw [h]

theorem consult_of_not_deny {m : Type → Type} [Monad m] [Logging m]
    (ask : Scope → Resource → m Bool) (h : tenantCheck scope r ≠ .deny) :
    consult ask scope r = ask scope r := by
  unfold consult
  cases hc : tenantCheck scope r with
  | deny => exact absurd hc h
  | allow => rfl
  | notApplicable => rfl

/-- What comes of raising, the events included: a denial leaves one, and an answer of the base policy
is handed on as it is. -/
theorem raise_run (gate : Gate) (scope : Scope) (r : Resource) :
    (gate.raise scope r : ExceptT Error Logged Unit).run =
      if tenantCheck scope r = .deny then
        ⟨.error (.accessDenied r.item.kind r.item.id),
          [.accessRefused r.item.kind r.item.id scope.tenantName]⟩
      else ⟨gate.policy.raise scope r, []⟩ := by
  unfold raise
  cases tenantCheck scope r with
  | deny => rfl
  | allow => rcases gate.policy.raise scope r with _ | ⟨⟩ <;> rfl
  | notApplicable => rcases gate.policy.raise scope r with _ | ⟨⟩ <;> rfl

theorem canAccess_value (gate : Gate) (scope : Scope) (r : Resource) :
    (gate.canAccess scope r : Logged Bool).value =
      if tenantCheck scope r = .deny then false else gate.policy.canAccess scope r := by
  unfold canAccess
  by_cases h : tenantCheck scope r = .deny
  · rw [if_pos h, consult_of_deny _ h]
    rfl
  · rw [if_neg h, consult_of_not_deny _ h]
    rfl

theorem consult_asked (gate : Gate) (scope : Scope) (r : Resource)
    (questions : List (Scope × Resource)) :
    ((consult gate.policy.asked scope r).run questions).value =
      ((gate.canAccess scope r : Logged Bool).value,
        if tenantCheck scope r = .deny then questions else questions ++ [(scope, r)]) := by
  rw [canAccess_value]
  by_cases h : tenantCheck scope r = .deny
  · rw [if_pos h, if_pos h, consult_of_deny _ h]
    rfl
  · rw [if_neg h, if_neg h, consult_of_not_deny _ h]
    rfl

theorem raise_denial_iff (gate : Gate) (scope : Scope) (r : Resource) :
    (gate.raise scope r : ExceptT Error Logged Unit).run =
      ⟨.error (.accessDenied r.item.kind r.item.id),
        [.accessRefused r.item.kind r.item.id scope.tenantName]⟩ ↔ tenantCheck scope r = .deny := by
  rw [raise_run]
  constructor
  · intro h
    by_cases hc : tenantCheck scope r = .deny
    · exact hc
    -- the policy may well answer with the same error, but it leaves no event
    · rw [if_neg hc] at h
      exact absurd (congrArg Logged.events h) (by simp)
  · intro h
    rw [if_pos h]

/-! ## Everything the gate decides -/

/-- What the gate makes of a resource, in full: what the tenant check decides, by the scope and the
labels on the chain of owners; and what the callers of the gate are answered, by that decision. -/
structure Decides (gate : Gate) (scope : Scope) (r : Resource) : Prop where
  strict : scope.strict = true → scope.tenant = none → scope.isAdmin = false →
    tenantCheck scope r = .deny
  unscoped : scope.tenant = none → (scope.strict = false ∨ scope.isAdmin = true) →
    tenantCheck scope r = .notApplicable
  deny_iff : ∀ t, scope.tenant = some t →
    (tenantCheck scope r = .deny ↔ ∃ f ∈ r.chain, f.Foreign t)
  allow_iff : ∀ t, scope.tenant = some t →
    (tenantCheck scope r = .allow ↔ ¬∃ f ∈ r.chain, f.Foreign t)
  access_iff : (gate.canAccess scope r : Logged Bool).value = true ↔
    tenantCheck scope r ≠ .deny ∧ gate.policy.canAccess scope r = true
  /-- Asking through the gate gives the same answer, and the policy is asked once or not at all. -/
  asked : ∀ questions, ((consult gate.policy.asked scope r).run questions).value =
    ((gate.canAccess scope r : Logged Bool).value,
      if tenantCheck scope r = .deny then questions else questions ++ [(scope, r)])
  /-- A denial is the gate's own, and any other answer is the policy's. -/
  raised : (gate.raise scope r : ExceptT Error Logged Unit).run.value =
    if tenantCheck scope r = .deny then .error (.accessDenied r.item.kind r.item.id)
    else gate.policy.raise scope r
  /-- The gate's own denial is told from a denial that the policy may raise by the event it leaves. -/
  raised_denial_iff : (gate.raise scope r : ExceptT Error Logged Unit).run =
      ⟨.error (.accessDenied r.item.kind r.item.id),
        [.accessRefused r.item.kind r.item.id scope.tenantName]⟩ ↔ tenantCheck scope r = .deny

/-- What the gate leaves of the names of a database's data sources. -/
def NarrowsNames (gate : Gate) (scope : Scope) (database : Database) : Prop :=
  ∀ names, gate.datasources scope database names =
    if tenantCheck scope (resource database) = .deny then []
    else gate.policy.datasources scope database names

theorem narrowsNames (gate : Gate) (scope : Scope) (database : Database) :
    gate.NarrowsNames scope database := by
  intro names
  unfold datasources
  cases tenantCheck scope (resource database) <;> rfl

/-- **The gate decides by the chain of owners, and the base policy behind it is asked once or not at
all.** For every scope, every base policy, every resource with any chain of owners, and every
database. -/
theorem decides_of_chain (gate : Gate) (scope : Scope) :
    (∀ r : Resource, gate.Decides scope r) ∧
      ∀ database : Database, gate.NarrowsNames scope database := by
  refine ⟨fun r => ?_, narrowsNames gate scope⟩
  refine
    { strict := fun hstrict ht hadmin => ?_
      unscoped := fun ht hfree => ?_
      deny_iff := fun t ht => tenantCheck_eq_deny_iff ht r
      allow_iff := fun t ht => tenantCheck_eq_allow_iff ht r
      access_iff := ?_
      asked := consult_asked gate scope r
      raised := ?_
      raised_denial_iff := raise_denial_iff gate scope r }
  · exact tenantCheck_of_denied (Scope.deniesUnscopedCaller_iff.mpr ⟨hstrict, ht, hadmin⟩) r
  · refine tenantCheck_of_no_tenant ?_ ht r
    rw [Bool.eq_false_iff]
    intro hd
    obtain ⟨hstrict, -, hadmin⟩ := Scope.deniesUnscopedCaller_iff.mp hd
    rcases hfree with hfree | hfree
    · exact absurd hstrict (by simp [hfree])
    · exact absurd hadmin (by simp [hfree])
  · rw [canAccess_value]
    by_cases h : tenantCheck scope r = .deny <;> simp [h]
  · rw [raise_run]
    by_cases h : tenantCheck scope r = .deny
    · rw [if_pos h, if_pos h]
    · rw [if_neg h, if_neg h]

/-- An owner that carries no label, or cannot carry one, hides nothing that stands behind it. -/
example :
    tenantCheck (.of (.resolved ⟨"acme"⟩ .header default) none)
      (.under ⟨.chart, "1", some (some ⟨"acme"⟩)⟩ (.under ⟨.datasource, "2", none⟩
        (.under ⟨.datasource, "3", some none⟩ (.free ⟨.database, "4", some (some ⟨"globex"⟩)⟩)))) =
      .deny := by decide

end Gate

end Tenancy
