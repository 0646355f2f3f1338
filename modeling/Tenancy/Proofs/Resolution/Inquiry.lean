import Tenancy.Proofs.Resolution.Steps

/-!
# Computations that check ids

A step of resolution takes the memo and gives it back, so from its first look into the memo to its
last change of it nobody else gets in between. Where many requests share one memo they do. An inquiry
is a step taken apart: it says which id is checked next and how it goes on with either answer, and
leaves open what happens while the check is made.

`Inquiry.run` puts the parts together again, and each step of resolution is an inquiry that is run:
the equations of the second section say so, one for each definition.
-/

set_option autoImplicit false

namespace Tenancy

open TenantId

/-- A computation that checks ids on its way. -/
inductive Inquiry (α : Type) where
  | done (answer : α)
  | log (event : Event) (rest : Inquiry α)
  | ask (candidate : String) (next : Bool → Inquiry α)

namespace Inquiry

variable {α β : Type}

/-- An inquiry, and another that goes on with its answer. -/
def bind (q : Inquiry α) (f : α → Inquiry β) : Inquiry β :=
  match q with
  | done a => f a
  | log e rest => log e (rest.bind f)
  | ask c next => ask c fun valid => (next valid).bind f

instance : Monad Inquiry where
  pure := done
  bind := bind

instance : Logging Inquiry where
  note e := log e (done ⟨⟩)

/-- Whether a text is a valid id. -/
def isValid (candidate : String) : Inquiry Bool := ask candidate done

/-- The step that an inquiry is, each check a single step. -/
def run : Inquiry α → Resolution.Step α
  | done a => pure a
  | log e rest => do
    note e
    rest.run
  | ask c next => do
    let valid ← Resolution.isValid c
    (next valid).run

/-- What an inquiry answers if the rule is asked each time. -/
def byRule : Inquiry α → Logged α
  | done a => ⟨a, []⟩
  | log e rest => ⟨rest.byRule.value, e :: rest.byRule.events⟩
  | ask c next => (next (isValidText c)).byRule

theorem run_bind (q : Inquiry α) (f : α → Inquiry β) :
    (q >>= f).run = q.run >>= fun a => (f a).run := by
  show (q.bind f).run = _
  induction q with
  | done a => exact (pure_bind a fun a => (f a).run).symm
  | log e rest ih =>
    show (note e >>= fun _ => (rest.bind f).run) = (note e >>= fun _ => rest.run) >>= _
    rw [bind_assoc, ih]
  | ask c next ih =>
    show (Resolution.isValid c >>= fun valid => ((next valid).bind f).run) =
      (Resolution.isValid c >>= fun valid => (next valid).run) >>= _
    rw [bind_assoc]
    exact congrArg _ (funext ih)

theorem run_bind_eq {q : Inquiry α} {x : Resolution.Step α} {f : α → Inquiry β}
    {g : α → Resolution.Step β} (hq : q.run = x) (hf : ∀ a, (f a).run = g a) :
    (q >>= f).run = x >>= g := by
  rw [run_bind, hq]
  exact congrArg _ (funext hf)

theorem run_note (e : Event) : (note e : Inquiry PUnit).run = note e :=
  bind_pure (note e : Resolution.Step PUnit)

theorem run_isValid (candidate : String) : (isValid candidate).run = Resolution.isValid candidate :=
  bind_pure (Resolution.isValid candidate)

/-- **A memo of right answers makes no difference**, neither to the answer nor to what is logged. -/
theorem run_eq_byRule (q : Inquiry α) {memo : Memo} (h : memo.Sound) :
    ∃ memo', memo'.Sound ∧ q.run.run memo = ⟨(q.byRule.value, memo'), q.byRule.events⟩ := by
  induction q generalizing memo with
  | done a => exact ⟨memo, h, rfl⟩
  | log e rest ih =>
    obtain ⟨memo', hmemo', hrun⟩ := ih h
    refine ⟨memo', hmemo', ?_⟩
    show Logged.mk (rest.run.run memo).value ([e] ++ (rest.run.run memo).events) = _
    rw [hrun]
    rfl
  | ask c next ih =>
    obtain ⟨hanswer, hsound⟩ := h.check c
    obtain ⟨memo', hmemo', hrun⟩ := ih (memo.check c).1 hsound
    refine ⟨memo', hmemo', ?_⟩
    show ((next (memo.check c).1).run.run (memo.check c).2) = _
    rw [hrun, hanswer]
    rfl

/-- How many steps an inquiry may take where a check takes three and an event one. -/
def weight : Inquiry α → Nat
  | done _ => 0
  | log _ rest => rest.weight + 1
  | ask _ next => max (next true).weight (next false).weight + 3

theorem weight_le (next : Bool → Inquiry α) (valid : Bool) :
    (next valid).weight ≤ max (next true).weight (next false).weight := by
  cases valid with
  | true => exact Nat.le_max_left _ _
  | false => exact Nat.le_max_right _ _

/-! ## Resolution -/

def ifValid (candidate : String) (otherwise : Event) : Inquiry (Option String) := do
  if ← isValid candidate then return some candidate
  note otherwise
  return none

def subdomainCandidate (settings : Settings) (signals : Signals) : Inquiry (Option String) :=
  if settings.subdomainRouting then
    match signals.host.bind Hostname.subdomain? with
    | some label => ifValid label (.subdomainInvalid label)
    | none => return none
  else return none

def identityHint (principal : Principal) : Inquiry (Option String) :=
  match principal.directTenant? with
  | some t => return some t
  | none =>
    match principal.claims with
    | none => return none
    | some claims =>
      match claims.hint with
      | .ok hint => return hint
      | .error _ => do
        note (.claimsUnreadable principal.username)
        return none

def identityCandidate (principal : Option Principal) : Inquiry (Option String) :=
  match principal with
  | none => return none
  | some p => do
    match ← identityHint p with
    | some hint => ifValid hint (.claimInvalid p.username)
    | none => return none

def candidate (settings : Settings) (signals : Signals) (principal : Option Principal) :
    Inquiry (Option (String × Source)) := do
  if let some t := Resolution.headerCandidate signals then return some (t, .header)
  if let some t ← subdomainCandidate settings signals then return some (t, .subdomain)
  if let some t ← identityCandidate principal then return some (t, .identityClaim)
  return settings.defaultTenant.map fun t => (t, .configuredDefault)

def resolve (settings : Settings) (now : Instant) (signals : Signals)
    (principal : Option Principal) : Inquiry Context := do
  match ← candidate settings signals principal with
  | some (t, source) =>
    note (.tenantResolved ⟨t⟩ source)
    return .resolved ⟨t⟩ source now
  | none =>
    note (.noTenantResolved (signals.host.getD "") (Resolution.userName principal))
    return .unresolved now

section Resolution

variable (settings : Settings) (signals : Signals) (principal : Option Principal)

theorem run_ifValid (candidate : String) (otherwise : Event) :
    (ifValid candidate otherwise).run = Resolution.ifValid candidate otherwise := by
  refine run_bind_eq (run_isValid candidate) fun valid => ?_
  cases valid with
  | true => rfl
  | false => exact run_bind_eq (run_note otherwise) fun _ => rfl

theorem run_subdomainCandidate :
    (subdomainCandidate settings signals).run =
      Resolution.subdomainCandidate settings signals := by
  unfold subdomainCandidate Resolution.subdomainCandidate
  cases settings.subdomainRouting with
  | false => rfl
  | true =>
    cases signals.host.bind Hostname.subdomain? with
    | none => rfl
    | some label => exact run_ifValid label _

theorem run_identityHint (p : Principal) :
    (identityHint p).run = Resolution.identityHint p := by
  unfold identityHint Resolution.identityHint
  cases p.directTenant? with
  | some t => rfl
  | none =>
    cases p.claims with
    | none => rfl
    | some claims =>
      dsimp only
      cases claims.hint with
      | ok hint => rfl
      | error e => exact run_bind_eq (run_note _) fun _ => rfl

theorem run_identityCandidate :
    (identityCandidate principal).run = Resolution.identityCandidate principal := by
  cases principal with
  | none => rfl
  | some p =>
    refine run_bind_eq (run_identityHint p) fun hint => ?_
    cases hint with
    | none => rfl
    | some hint => exact run_ifValid hint _

theorem run_candidate :
    (candidate settings signals principal).run =
      Resolution.candidate settings signals principal := by
  unfold candidate Resolution.candidate
  cases Resolution.headerCandidate signals with
  | some t => rfl
  | none =>
    refine run_bind_eq (run_subdomainCandidate settings signals) fun label => ?_
    cases label with
    | some t => rfl
    | none =>
      refine run_bind_eq (run_identityCandidate principal) fun hint => ?_
      cases hint with
      | some t => rfl
      | none => rfl

/-- **Resolution is an inquiry that is run.** -/
theorem run_resolve (now : Instant) :
    (resolve settings now signals principal).run =
      Resolution.resolve settings now signals principal := by
  refine run_bind_eq (run_candidate settings signals principal) fun winner => ?_
  rcases winner with _ | ⟨t, source⟩
  · exact run_bind_eq (run_note _) fun _ => rfl
  · exact run_bind_eq (run_note _) fun _ => rfl

end Resolution

end Inquiry

end Tenancy
