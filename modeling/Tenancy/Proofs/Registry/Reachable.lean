import Tenancy.Proofs.Settings.Check
import Tenancy.Registry

/-!
# What is known of every record of a registry in memory

Records get into a directory one way only, by being registered, and what is registered was checked
before; whatever is done afterwards keeps id and schema. So whoever takes a record out of a
directory, after whatever has been done with it, relies on a valid id and a valid schema
(`checked_of_reachable`) and does not check them again.
-/

set_option autoImplicit false

namespace Tenancy.Registry

/-! ## Records that were checked -/

/-- The id of a record is valid, its name is not blank, and its schema is valid if it has one. -/
structure Record.Checked (r : Record) : Prop where
  id : r.tenantId.isValid = true
  name : Text.nonBlank? r.name ≠ none
  schema : ∀ s, r.databaseSchema = some s → TenantId.isValidText s = true

/-- **What can be registered** has a valid id, a name that is not blank, and a valid schema if it
has one. -/
theorem NewTenant.check_eq_ok_iff {t : NewTenant} :
    t.check = .ok () ↔
      TenantId.isValidText t.tenantId = true ∧ Text.nonBlank? t.name ≠ none ∧
        ∀ s, t.databaseSchema = some s → TenantId.isValidText s = true := by
  unfold check
  cases t.databaseSchema with
  | none =>
    simp only [failIf_eq_ok_iff]
    simp [pure, Except.pure]
  | some s =>
    simp only [failIf_eq_ok_iff, lastFailIf_eq_ok_iff]
    simp

/-- A supply is only ever refused for what is wrong with it. -/
theorem NewTenant.check_eq_error {t : NewTenant} {e : Error} (h : t.check = .error e) :
    ∃ reason, e = .validation reason := by
  unfold check at h
  cases hschema : t.databaseSchema with
  | none =>
    rw [hschema] at h
    rcases eq_or_of_failIf_eq_error h with rfl | h
    · exact ⟨_, rfl⟩
    · rcases eq_or_of_failIf_eq_error h with rfl | h
      · exact ⟨_, rfl⟩
      · cases h
  | some s =>
    rw [hschema] at h
    rcases eq_or_of_failIf_eq_error h with rfl | h
    · exact ⟨_, rfl⟩
    · rcases eq_or_of_failIf_eq_error h with rfl | h
      · exact ⟨_, rfl⟩
      · exact ⟨_, (eq_of_lastFailIf_eq_error h)⟩

theorem NewTenant.checked_record {t : NewTenant} (h : t.check = .ok ()) (actor : Option Int)
    (now : Instant) : (t.record actor now).Checked :=
  have hparts := check_eq_ok_iff.mp h
  ⟨hparts.1, hparts.2.1, hparts.2.2⟩

/-- The schema of a record that was checked is a valid name. -/
theorem Record.Checked.isValidText_schemaName {r : Record} (h : r.Checked) :
    TenantId.isValidText r.schemaName = true := by
  unfold schemaName
  cases hs : r.databaseSchema with
  | none => exact h.id
  | some s =>
    show TenantId.isValidText (if s = "" then r.tenantId.text else s) = true
    split
    · exact h.id
    · exact h.schema s hs

/-! ## Directories that can be reached -/

/-- What can be asked of a registry. -/
inductive Operation where
  | get (id : String)
  | list (activeOnly : Bool)
  | create (t : NewTenant) (actor : Option Int)
  | deactivate (id : String) (actor : Option Int)
  | isActive (id : String)
  | ping
  deriving Repr

/-- An operation on a registry; its answer is dropped. -/
def Operation.perform {m : Type → Type} [Monad m] (registry : Registry m) : Operation → m Unit
  | .get id => (fun _ => ()) <$> registry.get? id
  | .list activeOnly => (fun _ => ()) <$> registry.list activeOnly
  | .create t actor => (fun _ => ()) <$> registry.create t actor
  | .deactivate id actor => (fun _ => ()) <$> registry.deactivate id actor
  | .isActive id => (fun _ => ()) <$> registry.isActive id
  | .ping => registry.ping

namespace Directory

/-- The directory behind an operation at a moment, whether that failed or not. -/
def after (d : Directory) (now : Instant) (op : Operation) : Directory :=
  ((op.perform (inMemory now) : ExceptT Error (StateT Directory Id) Unit).run.run d).run.2

/-- A directory that some operations have led to, at whatever moments. -/
inductive Reachable : Directory → Prop
  | empty : Reachable .empty
  | after {d : Directory} (now : Instant) (op : Operation) :
      Reachable d → Reachable (d.after now op)

/-- All records of a directory were checked. -/
def Checked (d : Directory) : Prop := ∀ r ∈ d.records, r.Checked

section Step

variable {d : Directory} {now : Instant}

/-- A change that fails leaves the directory as it was. -/
theorem run_step {α : Type} (change : Directory → Except Error (α × Directory)) :
    (((fun _ => ()) <$> step change : ExceptT Error (StateT Directory Id) Unit).run.run d).run.2 =
      match change d with
      | .ok (_, d') => d'
      | .error _ => d := by
  rw [ExceptT.run_map, StateT.run_map]
  show ((step change : ExceptT Error (StateT Directory Id) α).run.run d).run.2 = _
  unfold step
  show (match change d with
    | .ok (a, d') => (pure (.ok a, d') : Id (Except Error α × Directory))
    | .error e => pure (.error e, d)).run.2 = _
  rcases change d with e | ⟨a, d'⟩ <;> rfl

theorem mem_place {r s : Record} {rs : List Record} : s ∈ place r rs ↔ s = r ∨ s ∈ rs := by
  induction rs with
  | nil => exact List.mem_cons
  | cons a rest ih =>
    unfold place
    split
    · exact List.mem_cons
    · rw [List.mem_cons, ih, List.mem_cons, or_left_comm]

/-- What registering a tenant does if it succeeds. -/
theorem create_eq_ok {t : NewTenant} {actor : Option Int} {r : Record} {d' : Directory}
    (h : d.create t actor now = .ok (r, d')) :
    t.check = .ok () ∧ d.get? t.tenantId = none ∧ r = t.record actor now ∧
      d' = ⟨place (t.record actor now) d.records⟩ := by
  unfold create at h
  rcases hcheck : t.check with e | ⟨⟩
  · rw [hcheck] at h
    cases h
  · rw [hcheck] at h
    simp only [bind, Except.bind] at h
    split at h
    · cases h
    · next hfree =>
      cases h
      exact ⟨rfl, by simpa using hfree, rfl, rfl⟩

theorem deactivate_eq_ok {id : String} {actor : Option Int} {r : Record} {d' : Directory}
    (h : d.deactivate id actor now = .ok (r, d')) :
    ∃ s, d.get? id = some s ∧ r = deactivated s actor now ∧
      d' = ⟨d.records.map fun s => if s.tenantId.text = id then deactivated s actor now else s⟩ := by
  unfold deactivate at h
  cases hget : d.get? id with
  | none =>
    rw [hget] at h
    cases h
  | some s =>
    rw [hget] at h
    cases h
    exact ⟨s, rfl, rfl, rfl⟩

/-- **One operation keeps records checked**: what it adds was checked before, and what it changes
keeps id, name and schema. -/
theorem Checked.after (h : d.Checked) (op : Operation) : (d.after now op).Checked := by
  cases op with
  | create t actor =>
    show Checked ((((fun _ => ()) <$> step fun d => d.create t actor now :
      ExceptT Error (StateT Directory Id) Unit).run.run d).run.2)
    rw [run_step]
    rcases hcreate : d.create t actor now with e | ⟨r, d'⟩
    · exact h
    · obtain ⟨hcheck, -, -, rfl⟩ := create_eq_ok hcreate
      intro s hs
      rcases mem_place.mp hs with rfl | hs
      · exact NewTenant.checked_record hcheck actor now
      · exact h s hs
  | deactivate id actor =>
    show Checked ((((fun _ => ()) <$> step fun d => d.deactivate id actor now :
      ExceptT Error (StateT Directory Id) Unit).run.run d).run.2)
    rw [run_step]
    rcases hdeactivate : d.deactivate id actor now with e | ⟨r, d'⟩
    · exact h
    · obtain ⟨-, -, -, rfl⟩ := deactivate_eq_ok hdeactivate
      intro s hs
      obtain ⟨s', hs', rfl⟩ := List.mem_map.mp hs
      split
      · exact ⟨(h s' hs').id, (h s' hs').name, (h s' hs').schema⟩
      · exact h s' hs'
  | get id => exact h
  | list activeOnly => exact h
  | isActive id => exact h
  | ping => exact h

end Step

/-- **Every record that can be found in a directory was checked.** -/
theorem checked_of_reachable {d : Directory} (h : d.Reachable) : d.Checked := by
  induction h with
  | empty => exact fun _ h => absurd h List.not_mem_nil
  | after now op _ ih => exact ih.after op

end Directory

end Tenancy.Registry
