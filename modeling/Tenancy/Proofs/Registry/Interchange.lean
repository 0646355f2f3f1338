import Tenancy.Proofs.Database.Stored
import Tenancy.Proofs.Registry.History

/-!
# The two registries are interchangeable

The registry in memory looks at its records before it changes them. The one in the database sends one
statement and learns from the rows that come back what has happened: a new record that is not
returned has found its id taken, and a change that returns no record has found no one to change.

Both are run on the same operations, each with a clock of its own. `Mirrors` relates the records that
they hold: they are the same but for their moments, the text of the schema that was given, and the
order in which they are kept. One operation keeps that and gets answers that say the same
(`Mirrors.step`), so every sequence of operations does.
-/

set_option autoImplicit false

namespace Tenancy.Registry

open Database Program

/-! ## What the two have in common -/

/-- A record without its moments, and with the name of its schema in place of what was given. -/
structure Summary where
  tenantId : TenantId
  name : String
  description : Option String
  isActive : Bool
  configuration : Option Json
  createdBy : Option Int
  changedBy : Option Int
  schemaName : String

def Record.summary (r : Record) : Summary :=
  ⟨r.tenantId, r.name, r.description, r.isActive, r.configuration, r.createdBy, r.changedBy,
    r.schemaName⟩

/-- Answers that say the same: failures are the same, records have the same summaries, and a list of
them may be in another order. -/
inductive Alike : Except Error Answer → Except Error Answer → Prop
  | failed (e : Error) : Alike (.error e) (.error e)
  | found {r s : Option Record} :
      r.map Record.summary = s.map Record.summary → Alike (.ok (.found r)) (.ok (.found s))
  | listed {rs ss : List Record} :
      (rs.map Record.summary).Perm (ss.map Record.summary) →
        Alike (.ok (.listed rs)) (.ok (.listed ss))
  | changed {r s : Record} :
      r.summary = s.summary → Alike (.ok (.changed r)) (.ok (.changed s))
  | flag (active : Bool) : Alike (.ok (.flag active)) (.ok (.flag active))
  | done : Alike (.ok .done) (.ok .done)

section Summaries

/-- A name of a schema that is not empty is the tenant's schema; an empty one is its own id's. -/
theorem schemaName_ofTenant (id : TenantId) (given : Option String) :
    (if Schema.ofTenant id given = "" then id.text else Schema.ofTenant id given) =
      Schema.ofTenant id given := by
  cases given with
  | none => exact ite_self _
  | some s =>
    show (if (if s = "" then id.text else s) = "" then id.text else if s = "" then id.text else s) =
      if s = "" then id.text else s
    by_cases hs : s = ""
    · rw [if_pos hs, ite_self]
    · rw [if_neg hs, if_neg hs]

/-- The schema has one name, whether it was stored or is made up when it is asked for. -/
theorem summary_recordIn (t : NewTenant) (actor : Option Int) (now now' : Instant) :
    (t.recordIn (Schema.ofTenant ⟨t.tenantId⟩ t.databaseSchema) actor now).summary =
      (t.record actor now').summary :=
  congrArg (Summary.mk _ _ _ _ _ _ _) (schemaName_ofTenant ⟨t.tenantId⟩ t.databaseSchema)

/-- What deactivating does to a summary. -/
def Summary.retired (actor : Option Int) (x : Summary) : Summary :=
  { x with isActive := false, changedBy := actor }

theorem summary_deactivated (r : Record) (actor : Option Int) (now : Instant) :
    (Directory.deactivated r actor now).summary = r.summary.retired actor := rfl

end Summaries

/-! ## Two registries with the same records -/

/-- The records of a table and of a directory have the same summaries. -/
structure Mirrors (rs : List Record) (d : Directory) : Prop where
  same : (rs.map Record.summary).Perm (d.records.map Record.summary)
  ordered : Directory.Ordered d.records

theorem place_perm (r : Record) (rs : List Record) : (Directory.place r rs).Perm (r :: rs) := by
  induction rs with
  | nil => exact .refl _
  | cons s rs ih =>
    unfold Directory.place
    split
    · exact .refl _
    · exact (ih.cons s).trans (.swap r s rs)

namespace Mirrors

variable {rs : List Record} {d : Directory}

theorem empty : Mirrors [] .empty := ⟨.nil, List.Pairwise.nil⟩

theorem nodup (h : Mirrors rs d) : (rs.map fun r => r.tenantId.text).Nodup := by
  have hids := h.same.map fun x => x.tenantId.text
  rw [List.map_map, List.map_map] at hids
  exact hids.nodup_iff.mpr (Directory.nodup_of_ordered h.ordered)

theorem find? (h : Mirrors rs d) (id : String) :
    (rs.find? (hasId id)).map Record.summary = (d.get? id).map Record.summary := by
  have hmap : ∀ l : List Record, (l.find? (hasId id)).map Record.summary =
      (l.map Record.summary).find? fun x => x.tenantId.text == id := by
    intro l
    rw [List.find?_map]
    rfl
  have hnodup : ((rs.map Record.summary).map fun x => x.tenantId.text).Nodup := by
    rw [List.map_map]
    exact h.nodup
  show _ = (d.records.find? (hasId id)).map Record.summary
  rw [hmap, hmap]
  exact find?_eq_of_perm h.same hnodup id

theorem any_hasId (h : Mirrors rs d) (id : String) :
    rs.any (hasId id) = (d.get? id).isSome := by
  have hsome := congrArg Option.isSome (h.find? id)
  rw [Option.isSome_map, Option.isSome_map] at hsome
  rw [← hsome]
  exact List.isSome_find?.symm

theorem isActive (h : Mirrors rs d) (id : String) :
    (rs.find? (hasId id)).any Record.isActive = d.isActive id := by
  have hany : ∀ o : Option Record, o.any Record.isActive =
      (o.map Record.summary).any Summary.isActive := by
    intro o
    cases o <;> rfl
  unfold Directory.isActive
  rw [hany, hany, h.find? id]

theorem listed (h : Mirrors rs d) (setting : Setting) (activeOnly : Bool) :
    ((setting.ordered (rs.filter fun r => !activeOnly || r.isActive)).map Record.summary).Perm
      ((d.list activeOnly).map Record.summary) := by
  have hmap : ∀ l : List Record, (l.filter fun r => !activeOnly || r.isActive).map Record.summary =
      (l.map Record.summary).filter fun x => !activeOnly || x.isActive := by
    intro l
    rw [List.filter_map]
    rfl
  refine ((List.mergeSort_perm _ _).map _).trans ?_
  unfold Directory.list
  rw [hmap, hmap]
  exact h.same.filter _

theorem created (h : Mirrors rs d) {t : NewTenant} (hfree : d.get? t.tenantId = none)
    (actor : Option Int) (now now' : Instant) :
    Mirrors (rs ++ [t.recordIn (Schema.ofTenant ⟨t.tenantId⟩ t.databaseSchema) actor now])
      ⟨Directory.place (t.record actor now') d.records⟩ where
  same := by
    refine List.Perm.trans ?_ ((place_perm (t.record actor now') d.records).map _).symm
    rw [List.map_append, List.map_singleton, summary_recordIn t actor now now', List.map_cons]
    exact (List.perm_append_singleton _ _).trans (h.same.cons _)
  ordered := Directory.ordered_place h.ordered (Directory.get?_eq_none_iff.mp hfree)

theorem retired (h : Mirrors rs d) (id : String) (actor : Option Int) (now now' : Instant) :
    Mirrors (rs.map (Database.retired id actor now))
      ⟨d.records.map fun s =>
        if s.tenantId.text = id then Directory.deactivated s actor now' else s⟩ where
  same := by
    -- seen through summaries, both registries do the same to every record
    have hstored : (rs.map (Database.retired id actor now)).map Record.summary =
        (rs.map Record.summary).map fun x =>
          if x.tenantId.text = id then x.retired actor else x := by
      rw [List.map_map, List.map_map]
      refine List.map_congr_left fun r _ => ?_
      show (Database.retired id actor now r).summary =
        if r.tenantId.text = id then r.summary.retired actor else r.summary
      unfold Database.retired hasId
      by_cases hid : r.tenantId.text = id
      · rw [if_pos hid, if_pos (beq_iff_eq.mpr hid)]
        rfl
      · rw [if_neg hid, if_neg fun heq => hid (beq_iff_eq.mp heq)]
    have hkept : (d.records.map fun s =>
        if s.tenantId.text = id then Directory.deactivated s actor now' else s).map
          Record.summary =
        (d.records.map Record.summary).map fun x =>
          if x.tenantId.text = id then x.retired actor else x := by
      rw [List.map_map, List.map_map]
      refine List.map_congr_left fun r _ => ?_
      exact apply_ite Record.summary _ _ _
    rw [hstored, hkept]
    exact h.same.map _
  ordered := by
    refine Directory.ordered_map h.ordered fun r => ?_
    split <;> rfl

end Mirrors

/-! ## Both at once -/

/-- An operation, and when each of the two registries comes to it. -/
structure Step where
  operation : Operation
  now : Instant
  setting : Setting

def Step.call (s : Step) : Call := ⟨s.now, s.operation⟩

/-- What the registry in the database answers to a step, and the tables behind it. -/
def Step.inDatabase (s : Step) (db : Tables) : Except Error Answer × Tables :=
  session (performed s.setting) db (s.operation.call Database.registry)

/-- **One operation** is answered the same by both, and leaves them with the same records. The cases
are those of the registry in memory; each of them says how the statement in the database goes. -/
theorem Mirrors.step {rs : List Record} {d : Directory} (h : Mirrors rs d) (s : Step)
    (db : Tables) :
    ∃ a rs', s.inDatabase (db.withRegistry rs) = (a, db.withRegistry rs') ∧
      Alike a (d.serve s.call).1 ∧ Mirrors rs' (d.serve s.call).2 := by
  obtain ⟨op, now, setting⟩ := s
  have hcases := Directory.outcome_serve d ⟨now, op⟩
  show ∃ a rs', session (performed setting) (db.withRegistry rs) (op.call Database.registry) =
    (a, db.withRegistry rs') ∧ Alike a (d.serve ⟨now, op⟩).1 ∧ Mirrors rs' (d.serve ⟨now, op⟩).2
  generalize (d.serve ⟨now, op⟩).1 = a at hcases ⊢
  generalize (d.serve ⟨now, op⟩).2 = d' at hcases ⊢
  cases hcases with
  | found now id =>
    exact ⟨_, rs, session_map _ _ (session_getRecord id) Answer.found, .found (h.find? id), h⟩
  | listed now activeOnly =>
    exact ⟨_, rs, session_map _ _ (session_listRecords activeOnly) Answer.listed,
      .listed (h.listed setting activeOnly), h⟩
  | refused hcheck =>
    exact ⟨_, rs, session_map _ _ (session_createRecord_refused hcheck) Answer.changed, .failed _, h⟩
  | @taken _ t _ hcheck htaken =>
    have hany : rs.any (hasId t.tenantId) = true := (h.any_hasId t.tenantId).trans htaken
    exact ⟨_, rs, session_map _ _ (session_createRecord_taken hcheck hany) Answer.changed,
      .failed _, h⟩
  | @created _ t actor hcheck hfree =>
    have hany : rs.any (hasId t.tenantId) = false := by
      rw [h.any_hasId, hfree]
      rfl
    exact ⟨_, _, session_map _ _ (session_createRecord_new hcheck hany h.nodup) Answer.changed,
      .changed (summary_recordIn t actor _ _), h.created hfree actor _ _⟩
  | @unknown _ id _ hget =>
    -- no row comes back, and none has changed
    have hfind := h.find? id
    rw [hget, Option.map_none, Option.map_eq_none_iff] at hfind
    exact ⟨_, rs, session_map _ _ (session_deactivateRecord_unknown h.nodup hfind) Answer.changed,
      .failed _, h⟩
  | @retired _ id actor r hget =>
    have hfind := h.find? id
    rw [hget, Option.map_some, Option.map_eq_some_iff] at hfind
    obtain ⟨s, hs, hsummary⟩ := hfind
    refine ⟨_, _, session_map _ _ (session_deactivateRecord_known h.nodup hs) Answer.changed, ?_,
      h.retired id actor _ _⟩
    refine .changed ?_
    rw [summary_deactivated, summary_deactivated, hsummary]
  | flag now id =>
    refine ⟨_, rs, session_map _ _ (session_isActive id) Answer.flag, ?_, h⟩
    rw [h.isActive]
    exact .flag _
  | pinged now => exact ⟨_, rs, rfl, .done, h⟩

/-- What the registry in the database answers to some steps. -/
def answersInDatabase (db : Tables) : List Step → List (Except Error Answer)
  | [] => []
  | s :: rest => (s.inDatabase db).1 :: answersInDatabase (s.inDatabase db).2 rest

/-- What the registry in memory answers to them. -/
def answersInMemory (d : Directory) (steps : List Step) : List (Except Error Answer) :=
  (d.history (steps.map Step.call)).map Entry.answer

theorem Mirrors.run {rs : List Record} {d : Directory} (h : Mirrors rs d) (db : Tables)
    (steps : List Step) :
    List.Forall₂ Alike (answersInDatabase (db.withRegistry rs) steps) (answersInMemory d steps) := by
  induction steps generalizing rs d with
  | nil => exact .nil
  | cons s steps ih =>
    obtain ⟨a, rs', hstep, halike, hnext⟩ := h.step s db
    unfold answersInDatabase
    rw [hstep]
    exact .cons halike (ih hnext)

/-- **It makes no difference which registry is used.** Both start without records, and whatever is
then done with them, each answers as the other does: with the same failure, or with records that are
the same but for their moments, the text of a schema that was given and the order of a list. -/
theorem interchangeable (db : Tables) (steps : List Step) :
    List.Forall₂ Alike (answersInDatabase (db.withRegistry []) steps)
      (answersInMemory .empty steps) :=
  Mirrors.empty.run db steps

end Tenancy.Registry
