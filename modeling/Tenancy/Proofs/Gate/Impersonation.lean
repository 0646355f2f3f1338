import Tenancy.Cache.Key
import Tenancy.Proofs.Gate.View

/-!
# Acting for a tenant is having it

An administrator whose request resolves to no tenant may name one in a header. From then on nothing
tells the administrator from a caller whose request was resolved to that tenant: `SameAnswers` is
everything that a scope is asked about, and `impersonating_eq_resolved` says that the two scopes have
the same, in every monad and so with the same events, over every catalog, and whether tenancy is
strict or not.

The base policy has to play along, for it may look at the whole scope. One that goes by the caller
(`Policy.ByCaller`) does, and so do the policies that come with the gate.
-/

set_option autoImplicit false

namespace Tenancy

/-! ## Policies that go by the caller -/

/-- Of a scope, the policy looks at the caller only. -/
structure Policy.ByCaller (p : Policy) : Prop where
  agrees : ∀ scope scope' : Scope, scope.principal = scope'.principal → p.AgreesOn scope scope'
  datasources : ∀ scope scope' : Scope, scope.principal = scope'.principal →
    ∀ database names, p.datasources scope database names = p.datasources scope' database names

theorem Policy.byCaller_byRole (kinds : List Kind) : (byRole kinds).ByCaller := by
  refine ⟨fun scope scope' h r => ?_, fun _ _ _ _ _ => rfl⟩
  have hcan : (byRole kinds).canAccess scope r = (byRole kinds).canAccess scope' r := by
    simp only [byRole, h]
  refine ⟨hcan, ?_⟩
  show (if (byRole kinds).canAccess scope r then Except.ok () else .error (permissionError r)) =
    if (byRole kinds).canAccess scope' r then Except.ok () else .error (permissionError r)
  rw [hcan]

/-! ## Impersonation -/

namespace Scope

section Header

variable {m : Type → Type} [Monad m] [Logging m] {s : Scope}

theorem withImpersonation_eq (s : Scope) (header : Option String) :
    (s.withImpersonation header : m Scope) =
      if (requestedTenant? header).isSome && !s.isAdmin then
        note (.impersonationIgnored s.userName) >>= fun _ => pure (s.impersonating header)
      else pure (s.impersonating header) := rfl

/-- Strictness and impersonation are set in either order, and a header that is ignored leaves its
warning either way. -/
theorem withImpersonation_withStrict [LawfulMonad m] (s : Scope) (header : Option String)
    (strict : Bool) :
    ((s.withStrict strict).withImpersonation header : m Scope) =
      (withStrict · strict) <$> (s.withImpersonation header : m Scope) := by
  have hadmin : (s.withStrict strict).isAdmin = s.isAdmin := rfl
  have hname : (s.withStrict strict).userName = s.userName := rfl
  have hset : (s.withStrict strict).impersonating header =
      (s.impersonating header).withStrict strict := rfl
  rw [withImpersonation_eq, withImpersonation_eq, hadmin, hname, hset]
  split
  · rw [map_bind]
    simp only [map_pure]
  · rw [map_pure]

theorem impersonating_of_isAdmin (h : s.isAdmin = true) (header : Option String) :
    s.impersonating header = { s with impersonated := requestedTenant? header } := by
  rw [impersonating, h, if_pos rfl]

/-- An administrator who names a tenant acts for it, and nothing is logged. -/
theorem withImpersonation_of_isAdmin (h : s.isAdmin = true) (header : Option String) :
    (s.withImpersonation header : m Scope) = pure (s.impersonating header) := by
  rw [withImpersonation_eq, h, Bool.not_true, Bool.and_false]
  rfl

end Header

theorem requestedTenant?_of_trim_ne {v : String} (h : Text.trim v ≠ "") :
    requestedTenant? (some v) = some ⟨Text.trim v⟩ := by
  simp [requestedTenant?, Text.nonBlank?, h]

/-- An administrator without a tenant who names one has the standing of whoever has it. -/
theorem sameStanding_impersonating {p : Principal} (hadmin : p.isAdmin = true) {v : String}
    (hv : Text.trim v ≠ "") (strict : Bool) (now now' : Instant) (source : Source) :
    SameStanding (((of (.unresolved now) (some p)).impersonating (some v)).withStrict strict)
      ((of (.resolved ⟨Text.trim v⟩ source now') (some p)).withStrict strict) := by
  have hscope : (of (.unresolved now) (some p)).isAdmin = true := hadmin
  rw [impersonating_of_isAdmin hscope, requestedTenant?_of_trim_ne hv]
  exact ⟨rfl, rfl, rfl⟩

end Scope

namespace Gate

/-- Whatever is asked about two scopes has the same answer: by the tenant check, by the gate in each
of its ways, and for the key of a cached value. -/
structure SameAnswers (gate : Gate) (scope scope' : Scope) : Prop where
  check : ∀ r, tenantCheck scope r = tenantCheck scope' r
  canAccess : ∀ (m : Type → Type) [Monad m] [Logging m] (r : Resource),
    (gate.canAccess scope r : m Bool) = gate.canAccess scope' r
  raise : ∀ (m : Type → Type) [Monad m] [Logging m] [MonadExceptOf Error m] (r : Resource),
    (gate.raise scope r : m Unit) = gate.raise scope' r
  datasources : ∀ database names,
    gate.datasources scope database names = gate.datasources scope' database names
  listAccessible : ∀ (m : Type → Type) [Monad m] (catalog : Catalog m) (table : Table),
    gate.listAccessible scope catalog table = gate.listAccessible scope' catalog table
  getAccessible : ∀ (m : Type → Type) [Monad m] [Logging m] [MonadExceptOf Error m]
    (catalog : Catalog m) (table : Table) (id : String),
    gate.getAccessible scope catalog table id = gate.getAccessible scope' catalog table id
  scopedKey : ∀ base instead,
    Cache.scopedKey scope base instead = Cache.scopedKey scope' base instead

/-- A policy that goes by the caller leaves the gate nothing to tell scopes with the same rights
by. -/
theorem sameAnswers_of_sameRights {gate : Gate} (hpolicy : gate.policy.ByCaller)
    {scope scope' : Scope} (h : scope.SameRights scope') : gate.SameAnswers scope scope' := by
  have hagrees := hpolicy.agrees scope scope' h.principal
  exact {
    check := h.tenantCheck
    canAccess := fun _ _ _ r => h.canAccess (hagrees r).1
    raise := fun _ _ _ _ r => h.raise (hagrees r).2
    datasources := fun _ _ =>
      h.datasources (hpolicy.datasources scope scope' h.principal _ _)
    listAccessible := fun _ _ => h.listAccessible fun r => (hagrees r).1
    getAccessible := fun _ _ _ _ => h.getAccessible fun r => (hagrees r).2
    scopedKey := fun base instead => by rw [Cache.scopedKey, Cache.scopedKey, h.tenant] }

theorem sameAnswers_of_sameStanding {gate : Gate} (hpolicy : gate.policy.ByCaller)
    {scope scope' : Scope} (h : scope.SameStanding scope') : gate.SameAnswers scope scope' :=
  sameAnswers_of_sameRights hpolicy h.rights

/-- **To act for a tenant is to have it.** An administrator whose context has no tenant and who names
one in the header has the same answers as one whose context was resolved to it, whatever signal it
came from; and in every scope it makes no difference whether strictness or impersonation is set
first. -/
theorem impersonating_eq_resolved (gate : Gate) (hpolicy : gate.policy.ByCaller) {p : Principal}
    (hadmin : p.isAdmin = true) {v : String} (hv : Text.trim v ≠ "") (strict : Bool)
    (now now' : Instant) (source : Source) :
    let acting := (Scope.of (.unresolved now) (some p)).impersonating (some v)
    let having := Scope.of (.resolved ⟨Text.trim v⟩ source now') (some p)
    (∀ (m : Type → Type) [Monad m] [Logging m],
      ((Scope.of (.unresolved now) (some p)).withImpersonation (some v) : m Scope) = pure acting) ∧
    gate.SameAnswers (acting.withStrict strict) (having.withStrict strict) ∧
    ∀ (m : Type → Type) [Monad m] [LawfulMonad m] [Logging m] (s : Scope) (header : Option String)
      (strict : Bool), ((s.withStrict strict).withImpersonation header : m Scope) =
        (Scope.withStrict · strict) <$> (s.withImpersonation header : m Scope) := by
  intro acting having
  have hscope : (Scope.of (.unresolved now) (some p)).isAdmin = true := hadmin
  refine ⟨fun m _ _ => ?_, ?_, fun m _ _ _ s header strict => ?_⟩
  · exact Scope.withImpersonation_of_isAdmin hscope (some v)
  · exact sameAnswers_of_sameStanding hpolicy
      (Scope.sameStanding_impersonating hadmin hv strict now now' source)
  · exact s.withImpersonation_withStrict header strict

/-- An administrator who acts for a tenant is denied a chart whose dataset lies in the database of
another tenant, and reads and writes the tenant's cached values. -/
theorem impersonating_eq_resolved_sample :
    let gate : Gate := ⟨.byRole [.dashboard], true⟩
    let p := Principal.plain "root" .admin
    let acting := (Scope.of (.unresolved default) (some p)).impersonating (some " acme\t")
    let having := Scope.of (.resolved ⟨Text.trim " acme\t"⟩ .subdomain default) (some p)
    gate.policy.ByCaller ∧ p.isAdmin = true ∧ Text.trim " acme\t" ≠ "" ∧
      gate.SameAnswers (acting.withStrict true) (having.withStrict true) ∧
      tenantCheck (acting.withStrict true) (.under ⟨.chart, "1", some (some ⟨"acme"⟩)⟩
        (.under ⟨.datasource, "2", none⟩ (.free ⟨.database, "3", some (some ⟨"globex"⟩)⟩))) =
          .deny ∧
      Cache.scopedKey (acting.withStrict true) "k" none = "tenant:acme:k" := by
  intro gate p acting having
  have hpolicy : gate.policy.ByCaller := Policy.byCaller_byRole [.dashboard]
  have hv : Text.trim " acme\t" ≠ "" := by decide
  exact ⟨hpolicy, rfl, hv,
    (impersonating_eq_resolved gate hpolicy rfl hv true default default .subdomain).2.1,
    by decide, by decide⟩

end Gate

end Tenancy
