import Tenancy.Proofs.Database.Interrupted
import Tenancy.Proofs.Database.Migration.Statements

/-!
# The migration can be cut off, repeated and taken back

An attempt at the migration that is cut off leaves a layout from which tenancy can still be brought
in, and taken out, with the same outcome as before (`state_interrupted`, for what each statement
preserves). And a run to the end has that outcome: `session_applyMigration` and
`session_revertMigration` follow the two programs statement by statement, with one rule for their
loops. Together they say that it does not matter where, how often, and in which direction the
migration has been cut off.
-/

set_option autoImplicit false

namespace Tenancy.Database

open Program

/-! ## The programs of the migration -/

section Programs

variable {P : Statement → Prop} {step : String → Program Unit}

theorem asks_forTables {ts : List String} (h : ∀ t ∈ ts, (step t).Asks P) :
    (forTables step ts).Asks P := by
  induction ts with
  | nil => exact asks_pure ()
  | cons t ts ih =>
    obtain ⟨ht, hts⟩ := List.forall_mem_cons.mp h
    exact ht.bind fun _ => ih hts

theorem stops_forTables (h : ∀ t, (step t).Stops) (ts : List String) :
    (forTables step ts).Stops := by
  induction ts with
  | nil => exact stops_pure ()
  | cons t ts ih => exact (h t).bind fun _ => ih

theorem asks_tableExists {t : String} (h : P (.tableExists t)) : (tableExists t).Asks P := by
  refine (asks_query h).bind fun rows => (asks_read _).bind fun answer => ?_
  cases answer with
  | none => exact asks_throw _
  | some b => exact asks_pure b

theorem stops_tableExists (t : String) : (tableExists t).Stops := by
  refine (stops_query _).bind fun rows => (stops_read _).bind fun answer => ?_
  cases answer with
  | none => exact stops_throw _
  | some b => exact stops_pure b

theorem asks_labelTable {t : String} (h : t ∈ resourceTables) : (labelTable t).Asks Forward := by
  refine (asks_tableExists (.look h)).bind fun there => ?_
  cases there with
  | true =>
    exact (asks_execute (.column h)).bind fun _ => (asks_execute (.index h)).bind fun _ =>
      asks_note _
  | false => exact asks_note _

theorem stops_labelTable (t : String) : (labelTable t).Stops := by
  refine (stops_tableExists t).bind fun there => ?_
  cases there with
  | true =>
    exact (stops_execute _).bind fun _ => (stops_execute _).bind fun _ => stops_note _
  | false => exact stops_note _

theorem asks_unlabelTable {t : String} (h : t ∈ resourceTables) :
    (unlabelTable t).Asks Backward := by
  refine (asks_execute (.index h)).bind fun _ => (asks_tableExists (.look h)).bind fun there => ?_
  cases there with
  | true => exact asks_execute (.column h)
  | false => exact asks_pure ()

theorem asks_applyMigration : applyMigration.Asks Forward :=
  (asks_forTables fun _ ht => asks_labelTable ht).bind fun _ =>
    (asks_execute .registry).bind fun _ => asks_forTables fun _ hc => asks_execute (.registryIndex hc)

theorem stops_applyMigration : applyMigration.Stops :=
  (stops_forTables stops_labelTable _).bind fun _ =>
    (stops_execute _).bind fun _ => stops_forTables (fun _ => stops_execute _) _

theorem stops_unlabelTable (t : String) : (unlabelTable t).Stops := by
  refine (stops_execute _).bind fun _ => (stops_tableExists t).bind fun there => ?_
  cases there with
  | true => exact stops_execute _
  | false => exact stops_pure ()

theorem asks_revertMigration : revertMigration.Asks Backward :=
  (asks_execute .registry).bind fun _ => asks_forTables fun _ ht => asks_unlabelTable ht

theorem stops_revertMigration : revertMigration.Stops :=
  (stops_execute _).bind fun _ => stops_forTables stops_unlabelTable _

end Programs

/-! ## Complete runs -/

namespace Layout

/-- A layout with labels and their indexes on those of some tables that are there. -/
def labelled (l : Layout) (ts : List String) : Layout where
  tables := l.tables
  columns := l.columns ∪ (ts.toFinset ∩ l.tables).image (·, Table.labelColumn)
  indexes := l.indexes ∪ (ts.toFinset ∩ l.tables).image labelIndex

/-- A layout with the registry. -/
def registered (l : Layout) : Layout where
  tables := insert Statement.registryTable l.tables
  columns := l.columns ∪ columnsOf Statement.registryTable registryColumns
  indexes := l.indexes

/-- A layout with indexes on columns of the registry. -/
def indexed (l : Layout) (cs : List String) : Layout :=
  { l with indexes := l.indexes ∪ (cs.map registryIndex).toFinset }

/-- A layout without the labels of some tables. -/
def unlabelled (l : Layout) (ts : List String) : Layout where
  tables := l.tables
  columns := l.columns.filter fun p => ¬(p.1 ∈ ts ∧ p.2 = Table.labelColumn)
  indexes := l.indexes.filter fun i => ¬(i.table ∈ ts ∧ Table.labelColumn ∈ i.columns)

theorem labelled_cons (l : Layout) (t : String) (ts : List String) :
    (l.labelled [t]).labelled ts = l.labelled (t :: ts) := by
  have hsplit : (t :: ts).toFinset ∩ l.tables =
      ([t].toFinset ∩ l.tables) ∪ (ts.toFinset ∩ l.tables) := by
    rw [← Finset.union_inter_distrib_right, ← List.toFinset_append]
    rfl
  unfold labelled
  rw [hsplit, Finset.image_union, Finset.image_union, Finset.union_assoc, Finset.union_assoc]

theorem unlabelled_cons (l : Layout) (t : String) (ts : List String) :
    (l.unlabelled [t]).unlabelled ts = l.unlabelled (t :: ts) := by
  unfold unlabelled
  rw [Finset.filter_filter, Finset.filter_filter]
  congr 1
  · refine Finset.filter_congr fun p _ => ?_
    rw [List.mem_singleton, List.mem_cons]
    tauto
  · refine Finset.filter_congr fun i _ => ?_
    rw [List.mem_singleton, List.mem_cons]
    tauto

end Layout

section Runs

variable {l : Layout}

theorem session_tableExists (l : Layout) (t : String) :
    session altered l (tableExists t) = (.ok (decide (t ∈ l.tables)), l) := rfl

theorem session_executed {l' : Layout} {s : Statement} {c : Change} (hc : s.change? = some c)
    (h : c.effect? l = some l') : session altered l (execute s) = (.ok (), l') := by
  rw [session_execute, altered_eq_ok hc h]
  rfl

/-- An index of the migration is there behind the statement that creates it: if its name is taken, it
is the one that has it. -/
theorem effect?_createIndex (hl : l.Ready) {name table column : String}
    (hx : ⟨name, table, [column]⟩ ∈ migrationIndexes) (htable : table ∈ l.tables)
    (hcolumn : (table, column) ∈ l.columns) :
    (Change.createIndex name table column).effect? l =
      some { l with indexes := insert ⟨name, table, [column]⟩ l.indexes } := by
  rw [Change.effect?, if_pos ⟨htable, hcolumn⟩]
  split
  · next htaken =>
    obtain ⟨hfree, hsame⟩ := hl.reserved _ hx
    rcases htaken with htaken | ⟨i, hi, hname⟩
    · exact absurd htaken hfree
    · rw [← hsame i hi hname, Finset.insert_eq_of_mem hi]
  · rfl

theorem effect?_createRegistry (hl : l.Ready) :
    (Change.createTable Statement.registryTable registryColumns).effect? l = some l.registered := by
  rw [Change.effect?]
  split
  · next htaken =>
    rcases htaken with htaken | ⟨i, hi, hname⟩
    · have hcolumns : columnsOf Statement.registryTable registryColumns ⊆ l.columns := by
        intro p hp
        obtain ⟨c, hc, rfl⟩ := mem_columnsOf.mp hp
        exact hl.complete htaken c hc
      unfold Layout.registered
      rw [Finset.insert_eq_of_mem htaken, Finset.union_eq_left.mpr hcolumns]
    · exact absurd hname (hl.unnamed i hi)
  · rfl

theorem effect?_dropRegistry (hl : l.Ready) :
    (Change.dropTable Statement.registryTable).effect? l =
      some (l.dropTable Statement.registryTable) := by
  rw [Change.effect?]
  split
  · rfl
  · next hnot =>
    have hfree : ¬l.Taken Statement.registryTable := by
      rintro (htaken | ⟨i, hi, hname⟩)
      · exact hnot htaken
      · exact hl.unnamed i hi hname
    have hcolumns : ∀ p ∈ l.columns, p.1 ≠ Statement.registryTable := by
      intro p hp heq
      exact hnot (heq ▸ hl.columns p hp)
    have hindexes : ∀ i ∈ l.indexes, i.table ≠ Statement.registryTable := by
      intro i hi heq
      exact hnot (heq ▸ (hl.indexes i hi).1)
    rw [if_neg hfree]
    unfold Layout.dropTable
    rw [Finset.erase_eq_of_notMem hnot, Finset.filter_true_of_mem hcolumns,
      Finset.filter_true_of_mem hindexes]

theorem Layout.labelled_of_mem {t : String} (htable : t ∈ l.tables) :
    l.labelled [t] =
      { l with
        columns := insert (t, Table.labelColumn) l.columns
        indexes := insert (labelIndex t) l.indexes } := by
  have hthere : [t].toFinset ∩ l.tables = {t} := Finset.singleton_inter_of_mem htable
  unfold Layout.labelled
  rw [hthere, Finset.image_singleton, Finset.image_singleton, Finset.union_comm l.columns,
    Finset.union_comm l.indexes]
  rfl

theorem Layout.labelled_of_notMem {t : String} (htable : t ∉ l.tables) : l.labelled [t] = l := by
  have hnone : [t].toFinset ∩ l.tables = ∅ := Finset.singleton_inter_of_notMem htable
  unfold Layout.labelled
  rw [hnone, Finset.image_empty, Finset.image_empty, Finset.union_empty, Finset.union_empty]

theorem session_labelTable {t : String} (hl : l.Ready) (ht : t ∈ resourceTables) :
    session altered l (labelTable t) = (.ok (), l.labelled [t]) := by
  unfold labelTable
  rw [session_bind_ok altered l (session_tableExists l t)]
  by_cases htable : t ∈ l.tables
  · have hcolumn : session altered l (execute (.addLabelColumn t)) =
        (.ok (), { l with columns := insert (t, Table.labelColumn) l.columns }) :=
      session_executed rfl (if_pos htable)
    have hready := (Layout.Grown.column ht htable).ready hl
    -- the column is there now, so the index can be created, unless it was there before
    have hindex := effect?_createIndex hready (labelIndex_mem ht) htable (Finset.mem_insert_self _ _)
    rw [decide_eq_true htable, if_pos rfl, session_bind_ok altered l hcolumn,
      session_bind_ok altered _ (session_executed rfl hindex), session_note,
      Layout.labelled_of_mem htable]
    rfl
  · rw [decide_eq_false htable, if_neg Bool.false_ne_true, session_note,
      Layout.labelled_of_notMem htable]

theorem Layout.Ready.index_of_name {t : String} (hl : l.Ready) (ht : t ∈ resourceTables) {i : Index}
    (hi : i ∈ l.indexes) (hname : i.name = labelIndexName t) :
    i.table = t ∧ Table.labelColumn ∈ i.columns := by
  rw [(hl.reserved _ (labelIndex_mem ht)).2 i hi hname]
  exact ⟨rfl, List.mem_singleton_self _⟩

/-- The index goes with the column, whether it was dropped before or not. -/
theorem Layout.dropColumn_unlabelled {t : String} (hl : l.Ready) (ht : t ∈ resourceTables) :
    dropColumn { l with indexes := l.indexes.filter fun i => i.name ≠ labelIndexName t } t
      Table.labelColumn = l.unlabelled [t] := by
  unfold dropColumn unlabelled
  rw [Finset.filter_filter]
  congr 1
  · refine Finset.ext fun p => ?_
    rw [Finset.mem_erase, Finset.mem_filter, List.mem_singleton, and_comm, ne_eq, Prod.ext_iff]
  · refine Finset.filter_congr fun i hi => ?_
    rw [List.mem_singleton]
    exact ⟨And.right, fun h => ⟨fun hname => h (hl.index_of_name ht hi hname), h⟩⟩

/-- A table that is not there has no label and no index on it. -/
theorem Layout.unlabelled_of_notMem {t : String} (hl : l.Ready) (ht : t ∈ resourceTables)
    (htable : t ∉ l.tables) :
    { l with indexes := l.indexes.filter fun i => i.name ≠ labelIndexName t } =
      l.unlabelled [t] := by
  have hcolumns : ∀ p ∈ l.columns, ¬(p.1 ∈ [t] ∧ p.2 = Table.labelColumn) := by
    rintro p hp ⟨heq, -⟩
    exact htable (List.mem_singleton.mp heq ▸ hl.columns p hp)
  have hother : ∀ i ∈ l.indexes, i.table ≠ t := by
    intro i hi heq
    exact htable (heq ▸ (hl.indexes i hi).1)
  unfold unlabelled
  rw [Finset.filter_true_of_mem hcolumns]
  congr 1
  refine Finset.filter_congr fun i hi => ?_
  refine ⟨fun _ h => hother i hi (List.mem_singleton.mp h.1), fun _ hname => ?_⟩
  exact hother i hi (hl.index_of_name ht hi hname).1

theorem session_unlabelTable {t : String} (hl : l.Ready) (ht : t ∈ resourceTables) :
    session altered l (unlabelTable t) = (.ok (), l.unlabelled [t]) := by
  -- the name may be a table's, for all that is known of names; but not if the layout is ready
  have hreserved := hl.reserved _ (labelIndex_mem ht)
  have hindex : session altered l (execute (.dropLabelIndex t)) =
      (.ok (), { l with indexes := l.indexes.filter fun i => i.name ≠ labelIndexName t }) :=
    session_executed rfl (if_neg hreserved.1)
  unfold unlabelTable
  rw [session_bind_ok altered l hindex, session_bind_ok altered _ (session_tableExists _ t)]
  by_cases htable : t ∈ l.tables
  · have hcolumn := session_executed (l := { l with
      indexes := l.indexes.filter fun i => i.name ≠ labelIndexName t })
      (s := .dropLabelColumn t) rfl (if_pos htable)
    rw [decide_eq_true htable, if_pos rfl, hcolumn, Layout.dropColumn_unlabelled hl ht]
  · rw [decide_eq_false htable, if_neg Bool.false_ne_true, session_pure,
      Layout.unlabelled_of_notMem hl ht htable]

/-- A loop over tables whose single steps are known. -/
theorem session_forTables {step : String → Program Unit} {f : Layout → List String → Layout}
    {I : Layout → Prop} {P : String → Prop}
    (hstep : ∀ l t, I l → P t → session altered l (step t) = (.ok (), f l [t]) ∧ I (f l [t]))
    (hnil : ∀ l, f l [] = l) (hcons : ∀ l t ts, f (f l [t]) ts = f l (t :: ts)) {ts : List String}
    (hts : ∀ t ∈ ts, P t) (hl : I l) :
    session altered l (forTables step ts) = (.ok (), f l ts) := by
  induction ts generalizing l with
  | nil => rw [hnil, forTables, session_pure]
  | cons t ts ih =>
    obtain ⟨ht, hts⟩ := List.forall_mem_cons.mp hts
    obtain ⟨hrun, hnext⟩ := hstep l t hl ht
    rw [forTables, session_bind_ok altered l hrun, ih hts hnext, hcons]

/-- What each statement keeps ready, a program of such statements keeps ready. -/
theorem ready_session {P : Statement → Prop} {p : Program Unit} (hp : p.Asks P)
    (hP : ∀ (l : Layout) (s : Statement), P s → l.Ready → (altered l s).2.Ready) (hl : l.Ready)
    {l' : Layout} {x : Except Error Unit} (h : session altered l p = (x, l')) : l'.Ready := by
  have hready : (session altered l p).2.Ready := state_run altered hp hP hl
  rw [h] at hready
  exact hready

theorem ready_forward {p : Program Unit} (hp : p.Asks Forward) (hl : l.Ready) {l' : Layout}
    {x : Except Error Unit} (h : session altered l p = (x, l')) : l'.Ready :=
  ready_session hp (fun _ _ hs hl => (grown_altered hs).ready hl) hl h

theorem ready_backward {p : Program Unit} (hp : p.Asks Backward) (hl : l.Ready) {l' : Layout}
    {x : Except Error Unit} (h : session altered l p = (x, l')) : l'.Ready :=
  ready_session hp (fun _ _ hs hl => (shrunk_altered hs).ready hl) hl h

theorem session_labels (hl : l.Ready) :
    session altered l (forTables labelTable resourceTables) =
      (.ok (), l.labelled resourceTables) := by
  refine session_forTables (I := Layout.Ready) (P := (· ∈ resourceTables)) ?_ ?_
    Layout.labelled_cons (fun _ ht => ht) hl
  · intro l t hl ht
    have hrun := session_labelTable hl ht
    exact ⟨hrun, ready_forward (asks_labelTable ht) hl hrun⟩
  · intro l
    unfold Layout.labelled
    simp

theorem session_unlabels (hl : l.Ready) :
    session altered l (forTables unlabelTable resourceTables) =
      (.ok (), l.unlabelled resourceTables) := by
  refine session_forTables (I := Layout.Ready) (P := (· ∈ resourceTables)) ?_ ?_
    Layout.unlabelled_cons (fun _ ht => ht) hl
  · intro l t hl ht
    have hrun := session_unlabelTable hl ht
    exact ⟨hrun, ready_backward (asks_unlabelTable ht) hl hrun⟩
  · intro l
    unfold Layout.unlabelled
    simp

theorem session_indexes (hl : l.Ready) (hregistry : Statement.registryTable ∈ l.tables) :
    session altered l (forTables (fun c => execute (.createRegistryIndex c)) indexedColumns) =
      (.ok (), l.indexed indexedColumns) := by
  refine session_forTables (I := fun l => l.Ready ∧ Statement.registryTable ∈ l.tables)
    (P := (· ∈ indexedColumns)) ?_ ?_ ?_ (fun _ hc => hc) ⟨hl, hregistry⟩
  · rintro l c ⟨hl, hregistry⟩ hc
    have hcolumn : (Statement.registryTable, c) ∈ l.columns := by
      obtain ⟨d, hd, rfl⟩ := declared_of_indexed c hc
      exact hl.complete hregistry d hd
    have heffect := effect?_createIndex hl (registryIndex_mem hc) hregistry hcolumn
    have hrun : session altered l (execute (.createRegistryIndex c)) = (.ok (), l.indexed [c]) := by
      rw [session_executed rfl heffect]
      unfold Layout.indexed
      rw [Finset.union_comm]
      rfl
    exact ⟨hrun, ready_forward (asks_execute (.registryIndex hc)) hl hrun, hregistry⟩
  · intro l
    unfold Layout.indexed
    simp
  · intro l c cs
    unfold Layout.indexed
    rw [Finset.union_assoc, ← List.toFinset_append]
    rfl

/-- **A run to the end brings tenancy in.** -/
theorem session_applyMigration (hl : l.Ready) :
    session altered l applyMigration = (.ok (), l.withTenancy) := by
  have hlabels := session_labels hl
  have hready := ready_forward (asks_forTables fun _ ht => asks_labelTable ht) hl hlabels
  have hregistry : session altered (l.labelled resourceTables) (execute .createRegistry) =
      (.ok (), (l.labelled resourceTables).registered) :=
    session_executed rfl (effect?_createRegistry hready)
  have hindexes := session_indexes (ready_forward (asks_execute .registry) hready hregistry)
    (Finset.mem_insert_self _ _)
  unfold applyMigration
  rw [session_bind_ok altered l hlabels, session_bind_ok altered _ hregistry, hindexes]
  rfl

/-- **A run to the end takes tenancy out.** -/
theorem session_revertMigration (hl : l.Ready) :
    session altered l revertMigration = (.ok (), l.withoutTenancy) := by
  have hregistry : session altered l (execute .dropRegistry) =
      (.ok (), l.dropTable Statement.registryTable) :=
    session_executed rfl (effect?_dropRegistry hl)
  have hunlabels := session_unlabels (ready_backward (asks_execute .registry) hl hregistry)
  unfold revertMigration
  rw [session_bind_ok altered l hregistry, hunlabels]
  unfold Layout.unlabelled Layout.dropTable Layout.withoutTenancy
  rw [Finset.filter_filter, Finset.filter_filter]

end Runs

/-! ## Attempts -/

/-- A migration, which goes in one of two directions. -/
inductive Direction where
  | forward
  | backward

def Direction.program : Direction → Program Unit
  | forward => applyMigration
  | backward => revertMigration

/-- An attempt at a migration, with the fates of its statements. -/
structure Attempt where
  direction : Direction
  fates : List Fate

/-- The layout that an attempt leaves behind. -/
def Attempt.behind (l : Layout) (a : Attempt) : Layout :=
  (a.direction.program.run (interrupted altered) (l, a.fates)).state.1

namespace Layout

/-- The layout that attempts leave behind. -/
def after (l : Layout) (attempts : List Attempt) : Layout := attempts.foldl Attempt.behind l

variable {l : Layout}

/-- What no statement of an attempt changes in a layout that is ready, the attempt does not change. -/
theorem Ready.behind_of {P : Statement → Prop} {f : Layout → Layout} {a : Attempt} (hl : l.Ready)
    (hp : a.direction.program.Asks P)
    (hP : ∀ (l : Layout) (s : Statement), P s → l.Ready →
      (altered l s).2.Ready ∧ f (altered l s).2 = f l) :
    (a.behind l).Ready ∧ f (a.behind l) = f l := by
  refine state_interrupted altered (I := fun l' => l'.Ready ∧ f l' = f l) hp ?_ ⟨hl, rfl⟩ a.fates
  rintro l' s hs ⟨hready, hsame⟩
  obtain ⟨hready', hsame'⟩ := hP l' s hs hready
  exact ⟨hready', hsame'.trans hsame⟩

theorem Ready.behind (hl : l.Ready) (a : Attempt) :
    (a.behind l).Ready ∧ (a.behind l).withoutTenancy = l.withoutTenancy := by
  obtain ⟨direction, fates⟩ := a
  cases direction with
  | forward =>
    refine hl.behind_of asks_applyMigration ?_
    intro l s hs hready
    exact ⟨(grown_altered hs).ready hready, (grown_altered hs).withoutTenancy⟩
  | backward =>
    refine hl.behind_of asks_revertMigration ?_
    intro l s hs hready
    exact ⟨(shrunk_altered hs).ready hready, (shrunk_altered hs).withoutTenancy hready⟩

theorem Ready.after (hl : l.Ready) (attempts : List Attempt) :
    (l.after attempts).Ready ∧ (l.after attempts).withoutTenancy = l.withoutTenancy := by
  induction attempts generalizing l with
  | nil => exact ⟨hl, rfl⟩
  | cons a attempts ih =>
    obtain ⟨hready, hsame⟩ := hl.behind a
    obtain ⟨hready', hsame'⟩ := ih hready
    exact ⟨hready', hsame'.trans hsame⟩

/-- What an attempt to bring tenancy in leaves is ready for another one, with the same outcome. -/
theorem Ready.behind_forward (hl : l.Ready) (fates : List Fate) :
    (Attempt.behind l ⟨.forward, fates⟩).Ready ∧
      (Attempt.behind l ⟨.forward, fates⟩).withTenancy = l.withTenancy := by
  refine hl.behind_of asks_applyMigration ?_
  intro l s hs hready
  exact ⟨(grown_altered hs).ready hready, (grown_altered hs).withTenancy⟩

/-! ## The main results -/

/-- There is no registry and nothing of it, and no resource table has a label or an index that
involves one. -/
structure Clear (l : Layout) : Prop where
  registry : Statement.registryTable ∉ l.tables
  columns : ∀ p ∈ l.columns, p.1 ≠ Statement.registryTable ∧
    ¬(p.1 ∈ resourceTables ∧ p.2 = Table.labelColumn)
  indexes : ∀ i ∈ l.indexes, i.table ≠ Statement.registryTable ∧
    ¬(i.table ∈ resourceTables ∧ Table.labelColumn ∈ i.columns)

theorem clear_withoutTenancy (l : Layout) : l.withoutTenancy.Clear where
  registry := Finset.notMem_erase _ _
  columns _ hp := (Finset.mem_filter.mp hp).2
  indexes _ hi := (Finset.mem_filter.mp hi).2

theorem Clear.withoutTenancy_eq (h : l.Clear) : l.withoutTenancy = l := by
  unfold withoutTenancy
  rw [Finset.erase_eq_of_notMem h.registry, Finset.filter_true_of_mem h.columns,
    Finset.filter_true_of_mem h.indexes]

/-- The first statement of a migration that fails is the last one that is sent, and its fault is the
answer. Up to there, nothing is different. -/
def StopsAtFaults (l : Layout) (direction : Direction) : Prop :=
  ∀ (k : Nat) (fate : Fate) (fault : DatabaseFault) (later : List Fate),
    k < (direction.program.run altered l).statements.length → fate.fault? = some fault →
      let cut := direction.program.run (interrupted altered)
        (l, List.replicate k .served ++ fate :: later)
      cut.answer = .error (.database fault) ∧
        cut.statements = (direction.program.run altered l).statements.take (k + 1)

/-- How bringing tenancy into a layout goes. -/
structure Restartable (l : Layout) : Prop where
  stops : l.StopsAtFaults .forward
  /-- Where nothing fails, the migration comes to its end. -/
  completes : session altered l applyMigration = (.ok (), l.withTenancy)
  /-- Wherever it was cut off, it is completed by running it again. -/
  resumes : ∀ fates, session altered (Attempt.behind l ⟨.forward, fates⟩) applyMigration =
    session altered l applyMigration
  /-- To run it twice is to run it once. -/
  repeats : session altered (session altered l applyMigration).2 applyMigration =
    session altered l applyMigration

/-- How taking tenancy out of a layout goes, whatever has been tried before. -/
structure Revertible (l : Layout) : Prop where
  stops : l.StopsAtFaults .backward
  completes : ∀ attempts, session altered (l.after attempts) revertMigration =
    (.ok (), l.withoutTenancy)
  clear : l.withoutTenancy.Clear
  exact : l.Clear → l.withoutTenancy = l

/-- **The migration can be cut off, repeated and taken back.** What is dropped with a label column
are all indexes that the column is part of, those that the migration did not make among them; such
an index does not come back, and `Layout.withoutTenancy` is without it. -/
theorem migration_recovers (hl : l.Ready) : l.Restartable ∧ l.Revertible := by
  have hcompletes : session altered l applyMigration = (.ok (), l.withTenancy) :=
    session_applyMigration hl
  have hresumes : ∀ fates, session altered (Attempt.behind l ⟨.forward, fates⟩) applyMigration =
      session altered l applyMigration := by
    intro fates
    obtain ⟨hready, hsame⟩ := hl.behind_forward fates
    rw [session_applyMigration hready, hcompletes, hsame]
  refine ⟨⟨?_, hcompletes, hresumes, ?_⟩,
    ⟨?_, ?_, clear_withoutTenancy l, Clear.withoutTenancy_eq⟩⟩
  · intro k fate fault later hk hfate
    exact run_cut altered stops_applyMigration hfate later hk
  · -- an attempt in which all statements are served is a run to the end
    have hbehind : Attempt.behind l ⟨.forward, []⟩ = (session altered l applyMigration).2 :=
      (run_interrupted_nil altered l applyMigration).2
    rw [← hbehind]
    exact hresumes []
  · intro k fate fault later hk hfate
    exact run_cut altered stops_revertMigration hfate later hk
  · intro attempts
    obtain ⟨hready, hsame⟩ := hl.after attempts
    rw [session_revertMigration hready, hsame]

/-- One of the resource tables, and another table that has a column and an index like a label's. -/
def sample : Layout where
  tables := {"dashboards", "logs"}
  columns := {("dashboards", "id"), ("logs", "tenant_id")}
  indexes := {⟨"ix_logs_tenant_id", "logs", ["tenant_id"]⟩}

/-- The reply to the second statement is lost; after that the migration is completed, and taken back
at the second attempt. -/
theorem migration_recovers_sample :
    sample.Ready ∧ sample.Clear ∧
      session altered
        (sample.after [⟨.forward, [.served, .lost .poolTimedOut]⟩, ⟨.forward, []⟩,
          ⟨.backward, [.served, .refused .poolClosed]⟩]) revertMigration = (.ok (), sample) := by
  have hready : sample.Ready := by
    refine ⟨?_, ?_, ?_, ?_, ?_⟩ <;> decide
  have hclear : sample.Clear := by
    refine ⟨?_, ?_, ?_⟩ <;> decide
  obtain ⟨-, hrevertible⟩ := migration_recovers hready
  refine ⟨hready, hclear, ?_⟩
  rw [hrevertible.completes, hrevertible.exact hclear]

end Layout

end Tenancy.Database
