import Tenancy.Database.Registry
import Tenancy.Proofs.Database.Command
import Tenancy.Proofs.Database.Run
import Tenancy.Proofs.Keyed

/-!
# The registry over a table of records

What the operations of the registry in the database answer, and what they leave, when the database
does what statements mean and its table holds records. A record is read back from its row as it was
(`recordOf_cells`), so the table can be spoken of as a list of records: one equation for each
operation.
-/

set_option autoImplicit false

namespace Tenancy

open Database

/-! ## Records as rows -/

namespace Registry.Record

/-- The cells of a record, in the order of its fields. -/
def cells (r : Record) : List Cell :=
  [.text r.tenantId.text, .text r.name, .ofOption .text r.description, .bool r.isActive,
    .ofOption .text r.databaseSchema, .ofOption .json r.configuration, .time r.createdOn,
    .time r.changedOn, .ofOption .int r.createdBy, .ofOption .int r.changedBy]

/-- The row of a record. -/
def namedCells (r : Record) : NamedCells := fieldNames.zip r.cells

end Registry.Record

/-- The record of a tenant as the database keeps it, with the name of a schema. -/
def Registry.NewTenant.recordIn (t : NewTenant) (schema : String) (actor : Option Int)
    (now : Instant) : Record :=
  { t.record actor now with databaseSchema := some schema }

namespace Database

open Registry Program

/-- The columns of a reply with records. -/
def recordColumnTypes : List Column :=
  [⟨"tenant_id", .text⟩, ⟨"tenant_name", .text⟩, ⟨"description", .text⟩, ⟨"is_active", .bool⟩,
    ⟨"database_schema", .text⟩, ⟨"configuration", .jsonb⟩, ⟨"created_on", .timestamptz⟩,
    ⟨"changed_on", .timestamptz⟩, ⟨"created_by_fk", .int8⟩, ⟨"changed_by_fk", .int8⟩]

section Reading

variable {α β : Type}

theorem read_eq_ok {needed : Needed α} {c : Cell} {a : α} (h : needed.ofCell? c = some a)
    (ref : ColumnRef) (type : ColumnType) : needed.read ref type c = .ok a := by
  unfold Needed.read
  rw [h]

theorem read_orNull_ofOption (needed : Needed α) (f : α → Cell)
    (hf : ∀ a, f a ≠ .null ∧ needed.ofCell? (f a) = some a)
    (ref : ColumnRef) (type : ColumnType) (o : Option α) :
    needed.orNull.read ref type (.ofOption f o) = .ok o := by
  refine read_eq_ok ?_ ref type
  cases o with
  | none => rfl
  | some a =>
    obtain ⟨hnull, hcell⟩ := hf a
    unfold Needed.orNull Cell.ofOption
    simp only [hcell]
    rfl

theorem bind_eq_of_ok {x : Except DatabaseFault α} {a : α} (h : x = .ok a)
    (g : α → Except DatabaseFault β) : (x >>= g) = g a := by
  rw [h]
  rfl

end Reading

/-- **A record is read from its row as it was.** -/
theorem recordOf_cells (r : Record) : recordOf recordColumnTypes r.cells = .ok r := by
  have htext := read_orNull_ofOption .text .text fun _ => ⟨nofun, rfl⟩
  have hjson := read_orNull_ofOption .json .json fun _ => ⟨nofun, rfl⟩
  have hint := read_orNull_ofOption .int .int fun _ => ⟨nofun, rfl⟩
  refine (bind_eq_of_ok (a := r.tenantId.text) rfl _).trans ?_
  refine (bind_eq_of_ok (a := r.name) rfl _).trans ?_
  refine (bind_eq_of_ok (htext _ _ r.description) _).trans ?_
  refine (bind_eq_of_ok (a := r.isActive) rfl _).trans ?_
  refine (bind_eq_of_ok (htext _ _ r.databaseSchema) _).trans ?_
  refine (bind_eq_of_ok (hjson _ _ r.configuration) _).trans ?_
  refine (bind_eq_of_ok (a := r.createdOn) rfl _).trans ?_
  refine (bind_eq_of_ok (a := r.changedOn) rfl _).trans ?_
  refine (bind_eq_of_ok (hint _ _ r.createdBy) _).trans ?_
  exact bind_eq_of_ok (hint _ _ r.changedBy) _

/-- A reply with records. -/
def replied (rs : List Record) : RowSet := ⟨recordColumnTypes, rs.map Record.cells⟩

theorem records_replied (rs : List Record) : (replied rs).records = .ok rs := by
  show (rs.map Record.cells).mapM (recordOf recordColumnTypes) = .ok rs
  rw [List.mapM_map]
  induction rs with
  | nil => rfl
  | cons r rs ih =>
    rw [List.mapM_cons, ih, Function.comp_apply, recordOf_cells]
    rfl

theorem record?_replied (rs : List Record) : (replied rs).record? = .ok rs.head? := by
  cases rs with
  | nil => rfl
  | cons r rs =>
    show (recordOf recordColumnTypes r.cells).map some = _
    rw [recordOf_cells]
    rfl

/-! ## The table -/

/-- The registry's table with the rows of records. -/
def holding (rs : List Record) : Stored := ⟨registryColumns, rs.map Record.namedCells⟩

/-- A database whose registry holds records, whatever else there is in it. -/
def Tables.withRegistry (db : Tables) (rs : List Record) : Tables :=
  db.set Statement.registryTable (holding rs)

theorem reply?_holding (rs rs' : List Record) :
    (holding rs).reply? Record.fieldNames (rs'.map Record.namedCells) = some (replied rs') := by
  have hcells : ∀ r : Record, Record.fieldNames.map r.namedCells.cell = r.cells := fun r => rfl
  have hreply : (holding rs).reply? Record.fieldNames (rs'.map Record.namedCells) =
      some ⟨recordColumnTypes,
        (rs'.map Record.namedCells).map fun r => Record.fieldNames.map r.cell⟩ := rfl
  rw [hreply, List.map_map]
  exact congrArg (fun f => some (RowSet.mk recordColumnTypes (rs'.map f))) (funext hcells)

/-- What the table asks of rows is that no two records have one id. -/
theorem allows_namedCells {rs : List Record} (h : (rs.map fun r => r.tenantId.text).Nodup) :
    Allows registryColumns (rs.map Record.namedCells) := by
  have hid : (rs.map Record.namedCells).Pairwise fun r s =>
      (r.cell "tenant_id").same (s.cell "tenant_id") = false := by
    refine List.pairwise_map.mpr ((List.pairwise_map.mp h).imp ?_)
    intro r s hne
    exact beq_eq_false_iff_ne.mpr hne
  have hnull : ∀ c ∈ registryColumns, c.notNull = true → ∀ r : Record,
      (r.namedCells.cell c.name).isNull = false := by
    intro c hc hnotNull r
    simp only [registryColumns, List.mem_cons, List.not_mem_nil, or_false] at hc
    rcases hc with rfl | rfl | rfl | rfl | rfl | rfl | rfl | rfl | rfl | rfl | rfl <;>
      first | rfl | cases hnotNull
  -- the serial number is a key, too, but it is not in the rows
  have hkey : ∀ c ∈ registryColumns, c.key = .unique → c.name = "tenant_id" := by
    decide
  intro c hc
  refine ⟨?_, ?_⟩
  · intro hnotNull r hr
    obtain ⟨r, -, rfl⟩ := List.mem_map.mp hr
    exact hnull c hc hnotNull r
  · intro hunique
    rw [hkey c hc hunique]
    exact hid

/-! ## One statement -/

section Statements

variable {setting : Setting} {db : Tables} {rs : List Record}

/-- A statement that can be executed on the registry's table changes that table only. -/
theorem performed_eq {s : Statement} {c : Command} {reply : RowSet} {rs' : List Record}
    (hc : s.command? = some c) (htable : c.table = Statement.registryTable)
    (h : c.execute? setting s.params (holding rs) = some (reply, rs'.map Record.namedCells)) :
    performed setting (db.withRegistry rs) s = (.ok reply, db.withRegistry rs') := by
  unfold performed Tables.withRegistry
  rw [hc]
  simp only [htable, Tables.set_self, Option.bind_some, h, Option.map_some, Tables.set_set]
  rfl

theorem filter_namedCells (p : NamedCells → Bool) :
    (rs.map Record.namedCells).filter p =
      (rs.filter fun r => p r.namedCells).map Record.namedCells :=
  List.filter_map

/-- Whether a record has an id. -/
def hasId (id : String) (r : Record) : Bool := r.tenantId.text == id

theorem selectedRows_id (id : String) :
    selectedRows setting [.text id] (holding rs) (some (.equals "tenant_id" (.param 0))) none =
      (rs.filter (hasId id)).map Record.namedCells :=
  filter_namedCells _

/-- The rows with an id. -/
theorem performed_recordById (id : String) :
    performed setting (db.withRegistry rs) (.recordById id) =
      (.ok (replied (rs.filter (hasId id))), db.withRegistry rs) := by
  refine performed_eq rfl rfl ?_
  rw [execute?_select setting _ rfl rfl]
  show ((holding rs).reply? _ (selectedRows setting [.text id] _ _ _)).map _ = _
  rw [selectedRows_id, reply?_holding]
  rfl

/-- The flags of the rows with an id. -/
theorem performed_activeFlag (id : String) :
    performed setting (db.withRegistry rs) (.activeFlag id) =
      (.ok ⟨[⟨"is_active", .bool⟩], (rs.filter (hasId id)).map fun r => [.bool r.isActive]⟩,
        db.withRegistry rs) := by
  refine performed_eq rfl rfl ?_
  rw [execute?_select setting _ rfl rfl]
  have hreply : ∀ rows : List NamedCells, (holding rs).reply? ["is_active"] rows =
      some ⟨[⟨"is_active", .bool⟩], rows.map fun r => [r.cell "is_active"]⟩ := fun _ => rfl
  show ((holding rs).reply? _ (selectedRows setting [.text id] _ _ _)).map _ = _
  rw [selectedRows_id, hreply, List.map_map]
  rfl

/-- Records in the order in which a database puts their ids. -/
def Setting.ordered (setting : Setting) (rs : List Record) : List Record :=
  rs.mergeSort fun r s => setting.le (.text r.tenantId.text) (.text s.tenantId.text)

theorem selectedRows_records (activeOnly : Bool) :
    selectedRows setting [] (holding rs) (if activeOnly then some (.flag "is_active") else none)
        (some "tenant_id") =
      (setting.ordered (rs.filter fun r => !activeOnly || r.isActive)).map Record.namedCells := by
  have hfilter : ((rs.map Record.namedCells).filter fun r =>
      (if activeOnly then some (Condition.flag "is_active") else none).all
        (Condition.holds setting [] r)) =
      (rs.filter fun r => !activeOnly || r.isActive).map Record.namedCells := by
    rw [filter_namedCells]
    cases activeOnly with
    | false => rfl
    | true =>
      have hflag : ∀ b : Bool, (b == true) = b := by decide
      exact congrArg (fun p => (rs.filter p).map Record.namedCells)
        (funext fun r => hflag r.isActive)
  show ((rs.map Record.namedCells).filter _).mergeSort _ = _
  rw [hfilter]
  exact (List.map_mergeSort (f := Record.namedCells) fun _ _ _ _ => rfl).symm

/-- All rows, or those of active tenants. -/
theorem performed_records (activeOnly : Bool) :
    performed setting (db.withRegistry rs) (.records activeOnly) =
      (.ok (replied (setting.ordered (rs.filter fun r => !activeOnly || r.isActive))),
        db.withRegistry rs) := by
  refine performed_eq rfl rfl ?_
  rw [execute?_select]
  · show ((holding rs).reply? _ (selectedRows setting [] _ _ _)).map _ = _
    rw [selectedRows_records, reply?_holding]
    rfl
  · cases activeOnly <;> rfl
  · rfl

theorem performed_insertRecord_taken {t : NewTenant} {schema : String} {actor : Option Int}
    (h : rs.any (hasId t.tenantId) = true) :
    performed setting (db.withRegistry rs) (.insertRecord t schema actor) =
      (.ok (replied []), db.withRegistry rs) := by
  refine performed_eq rfl rfl ?_
  rw [execute?_insert_taken setting _ rfl rfl rfl]
  · exact congrArg (Option.map _) (reply?_holding rs [])
  · show (rs.map Record.namedCells).any _ = true
    rw [List.any_map]
    exact h

/-- A row for which all columns are given is what is given. -/
theorem newRow_namedCells (r : Record) :
    newRow setting (holding rs).declared r.namedCells = r.namedCells := rfl

theorem performed_insertRecord_new {t : NewTenant} {schema : String} {actor : Option Int}
    (h : rs.any (hasId t.tenantId) = false)
    (hnodup : (rs.map fun r => r.tenantId.text).Nodup) :
    performed setting (db.withRegistry rs) (.insertRecord t schema actor) =
      (.ok (replied [t.recordIn schema actor setting.now]),
        db.withRegistry (rs ++ [t.recordIn schema actor setting.now])) := by
  have hfree : ∀ s ∈ rs, s.tenantId.text ≠ t.tenantId := by
    simpa [hasId] using h
  refine performed_eq rfl rfl ?_
  have hgiven : evaluated? setting (Statement.insertRecord t schema actor).params
      [("tenant_id", .param 0), ("tenant_name", .param 1), ("description", .param 2),
        ("is_active", .truth true), ("database_schema", .param 3), ("configuration", .param 4),
        ("created_on", .now), ("changed_on", .now), ("created_by_fk", .param 5),
        ("changed_by_fk", .param 5)] = some (t.recordIn schema actor setting.now).namedCells := rfl
  -- all columns are given, so no default comes in and the row is the record's
  generalize hr : t.recordIn schema actor setting.now = r at hgiven ⊢
  have hrows : (rs ++ [r]).map Record.namedCells = (rs.map Record.namedCells) ++ [r.namedCells] :=
    List.map_append
  rw [execute?_insert_new setting _ rfl rfl hgiven, newRow_namedCells, hrows]
  · exact congrArg (Option.map _) (reply?_holding rs [r])
  · rw [newRow_namedCells]
    show (rs.map Record.namedCells).any _ = false
    rw [List.any_map, ← h, ← hr]
    rfl
  · rw [newRow_namedCells]
    show Allows registryColumns (rs.map Record.namedCells ++ [r.namedCells])
    rw [← hrows]
    refine allows_namedCells (nodup_append_fresh hnodup ?_)
    rw [← hr]
    exact hfree

/-- A record marked as inactive if it has an id. -/
def retired (id : String) (actor : Option Int) (now : Instant) (r : Record) : Record :=
  if hasId id r then Directory.deactivated r actor now else r

theorem tenantId_retired (id : String) (actor : Option Int) (now : Instant) (r : Record) :
    (retired id actor now r).tenantId = r.tenantId := by
  unfold retired
  split <;> rfl

/-- The rows with an id, marked as inactive. -/
theorem performed_deactivateRecord {id : String} {actor : Option Int}
    (hnodup : (rs.map fun r => r.tenantId.text).Nodup) :
    performed setting (db.withRegistry rs) (.deactivateRecord id actor) =
      (.ok (replied ((rs.filter (hasId id)).map fun r =>
          Directory.deactivated r actor setting.now)),
        db.withRegistry (rs.map (retired id actor setting.now))) := by
  refine performed_eq rfl rfl ?_
  have hgiven : evaluated? setting (Statement.deactivateRecord id actor).params
      [("is_active", .truth false), ("changed_on", .now), ("changed_by_fk", .param 1)] =
        some [("is_active", .bool false), ("changed_on", .time setting.now),
          ("changed_by_fk", .ofOption .int actor)] := rfl
  generalize hgivenName : ([("is_active", .bool false), ("changed_on", .time setting.now),
    ("changed_by_fk", .ofOption .int actor)] : NamedCells) = given at hgiven
  have hassign : ∀ r : Record,
      r.namedCells.assign given = (Directory.deactivated r actor setting.now).namedCells := by
    intro r
    rw [← hgivenName]
    rfl
  -- the rows behind the statement and the rows that it returns: the first are all of them
  have hrows : ((holding rs).rows.map fun r =>
      if Condition.holds setting (Statement.deactivateRecord id actor).params r
          (.equals "tenant_id" (.param 0)) then r.assign given else r) =
      (rs.map (retired id actor setting.now)).map Record.namedCells := by
    show (rs.map Record.namedCells).map _ = _
    rw [List.map_map, List.map_map]
    refine List.map_congr_left fun r _ => ?_
    show (if hasId id r then r.namedCells.assign given else r.namedCells) =
      (retired _ _ _ r).namedCells
    unfold retired
    split
    · exact hassign r
    · rfl
  have hchanged : (((holding rs).rows.filter
      (Condition.holds setting (Statement.deactivateRecord id actor).params ·
        (.equals "tenant_id" (.param 0)))).map fun r => r.assign given) =
      ((rs.filter (hasId id)).map fun r =>
        Directory.deactivated r actor setting.now).map Record.namedCells := by
    show (((rs.map Record.namedCells).filter _).map _) = _
    rw [filter_namedCells, List.map_map, List.map_map]
    exact List.map_congr_left fun r _ => hassign r
  rw [execute?_update setting _ rfl rfl hgiven, hrows, hchanged, reply?_holding]
  · rfl
  · rw [hrows]
    refine allows_namedCells ?_
    rw [List.map_map]
    refine (List.map_congr_left fun r _ => ?_) ▸ hnodup
    exact congrArg TenantId.text (tenantId_retired id actor setting.now r).symm

/-! ## One operation -/

theorem session_getRecord (id : String) :
    session (performed setting) (db.withRegistry rs) (getRecord id) =
      (.ok (rs.find? (hasId id)), db.withRegistry rs) := by
  unfold getRecord
  simp only [session_bind, session_query, performed_recordById, Except.mapError, session_read,
    record?_replied, List.head?_filter]

theorem session_listRecords (activeOnly : Bool) :
    session (performed setting) (db.withRegistry rs) (listRecords activeOnly) =
      (.ok (setting.ordered (rs.filter fun r => !activeOnly || r.isActive)),
        db.withRegistry rs) := by
  unfold listRecords
  simp only [session_bind, session_query, performed_records, Except.mapError, session_read,
    records_replied]

theorem session_isActive (id : String) :
    session (performed setting) (db.withRegistry rs) (Database.isActive id) =
      (.ok ((rs.find? (hasId id)).any Record.isActive), db.withRegistry rs) := by
  unfold Database.isActive
  simp only [session_bind, session_query, performed_activeFlag, Except.mapError, session_read]
  rw [← List.head?_filter]
  cases rs.filter (hasId id) with
  | nil => rfl
  | cons r rest => rfl

theorem session_createRecord_refused {t : NewTenant} {actor : Option Int} {e : Error}
    (h : t.check = .error e) :
    session (performed setting) (db.withRegistry rs) (createRecord t actor) =
      (.error e, db.withRegistry rs) := by
  unfold createRecord
  rw [h]
  rfl

theorem session_createRecord_taken {t : NewTenant} {actor : Option Int} (hcheck : t.check = .ok ())
    (htaken : rs.any (hasId t.tenantId) = true) :
    session (performed setting) (db.withRegistry rs) (createRecord t actor) =
      (.error (.tenantExists t.tenantId), db.withRegistry rs) := by
  unfold createRecord
  rw [hcheck]
  simp only [session_bind, session_query, performed_insertRecord_taken htaken]
  rfl

theorem session_createRecord_new {t : NewTenant} {actor : Option Int} (hcheck : t.check = .ok ())
    (hfree : rs.any (hasId t.tenantId) = false) (hnodup : (rs.map fun r => r.tenantId.text).Nodup) :
    session (performed setting) (db.withRegistry rs) (createRecord t actor) =
      (.ok (t.recordIn (Schema.ofTenant ⟨t.tenantId⟩ t.databaseSchema) actor setting.now),
        db.withRegistry (rs ++
          [t.recordIn (Schema.ofTenant ⟨t.tenantId⟩ t.databaseSchema) actor setting.now])) := by
  unfold createRecord
  rw [hcheck]
  simp only [session_bind, session_query, performed_insertRecord_new hfree hnodup, Except.mapError,
    session_read, record?_replied]
  rfl

theorem session_deactivateRecord_unknown {id : String} {actor : Option Int}
    (hnodup : (rs.map fun r => r.tenantId.text).Nodup) (h : rs.find? (hasId id) = none) :
    session (performed setting) (db.withRegistry rs) (deactivateRecord id actor) =
      (.error (.tenantNotFound id), db.withRegistry rs) := by
  have hfilter : rs.filter (hasId id) = [] := by
    rw [List.filter_eq_nil_iff]
    exact List.find?_eq_none.mp h
  have hsame : rs.map (retired id actor setting.now) = rs := by
    refine (List.map_congr_left fun r hr => ?_).trans (List.map_id rs)
    exact if_neg (List.find?_eq_none.mp h r hr)
  unfold deactivateRecord
  simp only [session_bind, session_query, performed_deactivateRecord hnodup, hfilter, hsame]
  rfl

theorem session_deactivateRecord_known {id : String} {actor : Option Int} {r : Record}
    (hnodup : (rs.map fun r => r.tenantId.text).Nodup) (h : rs.find? (hasId id) = some r) :
    session (performed setting) (db.withRegistry rs) (deactivateRecord id actor) =
      (.ok (Directory.deactivated r actor setting.now),
        db.withRegistry (rs.map (retired id actor setting.now))) := by
  unfold deactivateRecord
  simp only [session_bind, session_query, performed_deactivateRecord hnodup, Except.mapError,
    session_read, record?_replied, List.head?_map, List.head?_filter, h]
  rfl

end Statements

end Database

end Tenancy
