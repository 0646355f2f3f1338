import Mathlib.Data.List.Nodup
import Tenancy.Proofs.Database.Access
import Tenancy.Proofs.Database.Content
import Tenancy.Proofs.Gate.Isolation

/-!
# Listed rows and access by name, in the database

A listing decides in SQL, on the table's own label and on the owner its link points to; access by
name decides on rows that are fetched, the owner always from the table of databases. For a table
whose link points there, too, the two agree: what is listed of a table with labels is never denied
by name (`named_access_of_listed`). A table without labels is listed without a filter, so there the
owners have to be looked at: a listed row is denied by name exactly if its owner is another
tenant's.

Ids and foreign keys are read in JSON and looked up as text, so all this is about keys that are
spelled alike in both (`Content.SpelledAlike`). For a key that is not, the lookup finds no row, or
another one (`answer_getRow_of_key`), and an owner can be missed (`padded_owner_missed`).
-/

set_option autoImplicit false

namespace Tenancy

/-! ## Consistent contents -/

namespace Sql

/-- A label as a table holds it: none, or a text. -/
def Value.IsLabel (v : Value) : Prop := v = .null ∨ ∃ l, v = .ofText l

/-- A foreign key refers to a row with this id: the two are the same, and not null. -/
def Value.Refers (v id : Value) : Prop := ∃ s, v.text? = some s ∧ id.text? = some s

/-- A column of ids: never null, and no two rows share one. -/
structure Relation.Keyed (rel : Relation) (column : String) : Prop where
  known : column ∈ rel.columns
  notNull : ∀ x ∈ rel.tuples, (x column).text? ≠ none
  unique : ∀ x ∈ rel.tuples, ∀ y ∈ rel.tuples, (x column).text? = (y column).text? → x = y

theorem Relation.keyed_of_nodup {rel : Relation} {column : String} (known : column ∈ rel.columns)
    (notNull : ∀ x ∈ rel.tuples, (x column).text? ≠ none)
    (hnodup : (rel.tuples.map fun x => (x column).text?).Nodup) : rel.Keyed column where
  known := known
  notNull := notNull
  unique _ hx _ hy hxy := List.inj_on_of_nodup_map hnodup hx hy hxy

/-- Contents that fit a table's definition: ids are unique, labels are texts or missing, and every
foreign key is null or refers to a row of the linked table. How these keys are spelled in JSON is
left open (`Content.SpelledAlike`). -/
structure Content.Consistent (db : Content) (table : Table) : Prop where
  ids : ∀ rel, db.relation? table.table = some rel → rel.Keyed table.idColumn
  labels : ∀ rel column, db.relation? table.table = some rel → table.tenantColumn = some column →
    ∀ x ∈ rel.tuples, (x column).IsLabel
  keys : ∀ rel link, db.relation? table.table = some rel → table.owner = some link →
    link.foreignKey ∈ rel.columns ∧ ∀ x ∈ rel.tuples, (x link.foreignKey).text? = none ∨
      ∃ orel, db.relation? link.table = some orel ∧
        ∃ o ∈ orel.tuples, (x link.foreignKey).Refers (o link.idColumn)
  owners : ∀ link orel, table.owner = some link → db.relation? link.table = some orel →
    orel.Keyed link.idColumn ∧ link.tenantColumn ∈ orel.columns ∧
      ∀ o ∈ orel.tuples, (o link.tenantColumn).IsLabel

/-- A value is in JSON, as plain text, what it is cast to text: so are nulls, whole numbers, texts
and uuids. A text that is padded to its column's width is not, since its blanks are kept in JSON and
lost in the cast, and neither are numerics of more digits than a float has, timestamps and
documents. -/
def Value.SpelledAlike (v : Value) : Prop := v.image.plainText? = v.text?

def Relation.SpelledAlike (rel : Relation) (column : String) : Prop :=
  ∀ x ∈ rel.tuples, (x column).SpelledAlike

/-- The foreign keys of a table are spelled alike in JSON and as text. -/
def Content.SpellsKeysAlike (db : Content) (table : Table) : Prop :=
  ∀ rel link, db.relation? table.table = some rel → table.owner = some link →
    rel.SpelledAlike link.foreignKey

/-- The ids and the foreign keys of a table are spelled alike in JSON and as text. -/
structure Content.SpelledAlike (db : Content) (table : Table) : Prop where
  ids : ∀ rel, db.relation? table.table = some rel → rel.SpelledAlike table.idColumn
  keys : db.SpellsKeysAlike table

theorem Value.spelledAlike_ofInt (n : Int) : (ofInt n).SpelledAlike := by
  show some (String.ofList (toString n).toList) = some (toString n)
  rw [String.ofList_toList]

/-- What a row belongs to, by its foreign key, carries the label of a tenant other than `t`. -/
def ForeignOwner (db : Content) (table : Table) (t : TenantId) (x : Tuple) : Prop :=
  ∃ link orel, table.owner = some link ∧ db.relation? link.table = some orel ∧
    ∃ o ∈ orel.tuples, (x link.foreignKey).Refers (o link.idColumn) ∧
      ∃ l, (o link.tenantColumn).text? = some l ∧ l ≠ t.text

end Sql

/-- The table has no owners, or they are databases. -/
def Table.OwnedByDatabases (table : Table) : Prop :=
  ∀ link, table.owner = some link → link.table = databases.table ∧
    link.idColumn = databases.idColumn ∧ link.tenantColumn = labelColumn

namespace Database

open Sql Program

variable {db : Content} {table : Table} {rel : Relation} {x : Tuple} {t : TenantId}

/-! ## Rows as they are read -/

theorem ofJson?_image {v : Value} (h : v.IsLabel) :
    TenantId.ofJson? v.image = v.text?.map TenantId.mk := by
  rcases h with rfl | ⟨l, rfl⟩ <;> rfl

/-- A row is foreign by itself if its own label names another tenant. -/
theorem foreign_ofColumns_iff {column : String} (hcolumn : table.tenantColumn = some column)
    (hknown : column ∈ rel.columns) (hlabel : (x column).IsLabel) :
    (Row.ofColumns table (rel.toJson x)).facet.Foreign t ↔
      ∃ l, (x column).text? = some l ∧ l ≠ t.text := by
  rw [Row.foreign_facet_iff]
  unfold Row.ofColumns
  simp only [hcolumn, Option.isSome_some, Option.bind_some, true_and,
    Relation.member?_toJson hknown, ofJson?_image hlabel]
  cases (x column).text? with
  | none => simp
  | some l =>
    simp only [Option.map_some, Option.some.injEq, exists_eq_left']
    exact not_congr ⟨fun h => congrArg TenantId.text h, fun h => congrArg TenantId.mk h⟩

theorem not_foreign_ofColumns (h : table.tenantColumn = none) (data : Json) :
    ¬(Row.ofColumns table data).facet.Foreign t := by
  rw [Row.foreign_facet_iff]
  unfold Row.ofColumns
  simp [h]

theorem id_ofColumns (hkeyed : rel.Keyed table.idColumn)
    (hspelled : rel.SpelledAlike table.idColumn) (hx : x ∈ rel.tuples) :
    (x table.idColumn).text? = some (Row.ofColumns table (rel.toJson x)).id := by
  have himage : (x table.idColumn).image.plainText? = (x table.idColumn).text? := hspelled x hx
  unfold Row.ofColumns
  simp only [Relation.member?_toJson hkeyed.known, Option.bind_some, himage]
  cases hid : (x table.idColumn).text? with
  | none => exact absurd hid (hkeyed.notNull x hx)
  | some s => rfl

/-! ## Fetching by id -/

/-- What is selected by an id are the rows whose id, cast to text, is the one that is asked for. -/
theorem satisfying_byId (id : String) :
    (byIdSelection table).satisfying db [id] rel =
      rel.tuples.filter fun y => (y table.idColumn).text? == some id := by
  unfold Select.satisfying
  congr 1
  funext y
  rw [Bool.eq_iff_iff, beq_iff_eq]
  show (Truth.same (y table.idColumn).text? (some id) == some true) = true ↔ _
  rw [beq_iff_eq, Truth.same_eq_true]
  simp

theorem rows_byId (hrel : db.relation? table.table = some rel)
    (hknown : table.idColumn ∈ rel.columns) (id : String) :
    (byIdSelection table).rows? db [id] =
      some (rel, (byIdSelection table).satisfying db [id] rel) := by
  have hnames : (byIdSelection table).isKnown db rel = true := by
    simp [Select.isKnown, byIdSelection, Cond.isKnown, Term.isKnown, hknown]
  unfold Select.rows?
  rw [show (byIdSelection table).table = table.table from rfl, hrel]
  simp only [hnames, if_true]
  rfl

/-- The first row whose id, cast to text, is a given one. -/
def firstWithId? (rel : Relation) (column id : String) : Option Tuple :=
  rel.tuples.find? fun y => (y column).text? == some id

theorem firstWithId?_of_keyed {column : String} (hkeyed : rel.Keyed column) (hx : x ∈ rel.tuples)
    {id : String} (hid : (x column).text? = some id) : firstWithId? rel column id = some x := by
  cases hfound : firstWithId? rel column id with
  | none => exact absurd (beq_iff_eq.mpr hid) (List.find?_eq_none.mp hfound x hx)
  | some y =>
    have hy := List.find?_some (p := fun y : Tuple => (y column).text? == some id) hfound
    have hsame : (y column).text? = (x column).text? := (beq_iff_eq.mp hy).trans hid.symm
    rw [hkeyed.unique y (List.mem_of_find?_eq_some hfound) x hx hsame]

theorem answer_fetchRow_firstWithId? (hrel : db.relation? table.table = some rel)
    (hknown : table.idColumn ∈ rel.columns) (id : String) :
    answer (replyFrom db) (fetchRow table id) =
      .ok ((firstWithId? rel table.idColumn id).map
        fun x => Row.ofColumns table (rel.toJson x)) := by
  rw [answer_fetchRow, rows_byId hrel hknown]
  show Except.ok ((((byIdSelection table).satisfying db [id] rel).map rel.toJson).head?.map _) = _
  rw [satisfying_byId, List.head?_map, List.head?_filter, Option.map_map]
  rfl

theorem answer_fetchRow_of_keyed (hrel : db.relation? table.table = some rel)
    (hkeyed : rel.Keyed table.idColumn) (hx : x ∈ rel.tuples) {id : String}
    (hid : (x table.idColumn).text? = some id) :
    answer (replyFrom db) (fetchRow table id) =
      .ok (some (Row.ofColumns table (rel.toJson x))) := by
  rw [answer_fetchRow_firstWithId? hrel hkeyed.known, firstWithId?_of_keyed hkeyed hx hid]
  rfl

theorem not_foreignOwner_of_null
    (h : ∀ link, table.owner = some link → (x link.foreignKey).text? = none) :
    ¬ForeignOwner db table t x := by
  rintro ⟨link, -, hlink, -, -, -, ⟨s, hkey, -⟩, -⟩
  exact absurd ((h link hlink).symm.trans hkey) (by simp)

/-- Whether the owner that a foreign key refers to is foreign can be read off that owner. -/
theorem foreignOwner_iff {link : OwnerLink} {orel : Relation} {o : Tuple}
    (hlink : table.owner = some link) (horel : db.relation? link.table = some orel)
    (hkeyed : orel.Keyed link.idColumn) (ho : o ∈ orel.tuples)
    (hrefers : (x link.foreignKey).Refers (o link.idColumn)) :
    ForeignOwner db table t x ↔ ∃ l, (o link.tenantColumn).text? = some l ∧ l ≠ t.text := by
  constructor
  · rintro ⟨link', orel', hlink', horel', o', ho', ⟨s', hkey', hid'⟩, hlabel⟩
    obtain rfl := Option.some.inj (hlink.symm.trans hlink')
    obtain rfl := Option.some.inj (horel.symm.trans horel')
    obtain ⟨s, hkey, hid⟩ := hrefers
    have hsame : (o link.idColumn).text? = (o' link.idColumn).text? := by
      rw [hid, hid', ← hkey, hkey']
    rw [hkeyed.unique o ho o' ho' hsame]
    exact hlabel
  · intro hlabel
    exact ⟨link, orel, hlink, horel, o, ho, hrefers, hlabel⟩

theorem ownerId?_toJson {link : OwnerLink} (hlink : table.owner = some link)
    (hknown : link.foreignKey ∈ rel.columns) (x : Tuple) :
    ownerId? table (Row.ofColumns table (rel.toJson x)) =
      (x link.foreignKey).image.plainText? := by
  unfold ownerId?
  rw [hlink]
  show ((rel.toJson x).member? link.foreignKey).bind Json.plainText? = _
  rw [Relation.member?_toJson hknown]
  rfl

theorem answer_getRow_of_no_key (hrel : db.relation? table.table = some rel)
    (hkeyed : rel.Keyed table.idColumn) (hx : x ∈ rel.tuples) {id : String}
    (hid : (x table.idColumn).text? = some id)
    (hnone : ownerId? table (Row.ofColumns table (rel.toJson x)) = none) :
    answer (replyFrom db) (getRow table id) =
      .ok (some (.free (Row.ofColumns table (rel.toJson x)))) := by
  rw [answer_getRow, answer_fetchRow_of_keyed hrel hkeyed hx hid]
  simp only [hnone]

/-- The owner that a row is fetched with is the database whose id is, cast to text, what the row's
foreign key is in JSON. There may be none, or it may not be the one that the key refers to. -/
theorem answer_getRow_of_key (hrel : db.relation? table.table = some rel)
    (hkeyed : rel.Keyed table.idColumn) (hx : x ∈ rel.tuples) {id : String}
    (hid : (x table.idColumn).text? = some id) {link : OwnerLink} (hlink : table.owner = some link)
    (hknown : link.foreignKey ∈ rel.columns) {orel : Relation}
    (horel : db.relation? Table.databases.table = some orel)
    (hoknown : Table.databases.idColumn ∈ orel.columns) {key : String}
    (hkey : (x link.foreignKey).image.plainText? = some key) :
    answer (replyFrom db) (getRow table id) =
      .ok (some ((firstWithId? orel Table.databases.idColumn key).elim
        (.free (Row.ofColumns table (rel.toJson x)))
        fun o => .under (Row.ofColumns table (rel.toJson x))
          (.free (Row.ofColumns Table.databases (orel.toJson o))))) := by
  have howner : ownerId? table (Row.ofColumns table (rel.toJson x)) = some key :=
    (ownerId?_toJson hlink hknown x).trans hkey
  rw [answer_getRow, answer_fetchRow_of_keyed hrel hkeyed hx hid]
  simp only [howner, answer_fetchRow_firstWithId? horel hoknown]
  cases firstWithId? orel Table.databases.idColumn key <;> rfl

/-- **A row is fetched with the owner that its foreign key refers to**, if that key is spelled alike
in JSON and as text: nothing on the row's chain is foreign but its own label, or the label of that
owner. -/
theorem exists_answer_getRow (hdb : db.Consistent table) (hspelled : db.SpellsKeysAlike table)
    (hown : table.OwnedByDatabases) (hrel : db.relation? table.table = some rel)
    (hx : x ∈ rel.tuples) {id : String} (hid : (x table.idColumn).text? = some id) :
    ∃ row : OwnedRow, row.item = Row.ofColumns table (rel.toJson x) ∧
      answer (replyFrom db) (getRow table id) = .ok (some row) ∧
      ((∃ y ∈ row.chain, y.facet.Foreign t) ↔
        (Row.ofColumns table (rel.toJson x)).facet.Foreign t ∨ ForeignOwner db table t x) := by
  have hkeyed := hdb.ids rel hrel
  have halone (h : ∀ link, table.owner = some link → (x link.foreignKey).text? = none) :
      (∃ y ∈ (Owned.free (Row.ofColumns table (rel.toJson x))).chain, y.facet.Foreign t) ↔
        (Row.ofColumns table (rel.toJson x)).facet.Foreign t ∨ ForeignOwner db table t x := by
    simp [Owned.chain, not_foreignOwner_of_null h]
  cases hlink : table.owner with
  | none =>
    have hnone : ownerId? table (Row.ofColumns table (rel.toJson x)) = none := by
      rw [ownerId?, hlink, Option.bind_none]
    exact ⟨_, rfl, answer_getRow_of_no_key hrel hkeyed hx hid hnone,
      halone fun link h => absurd (hlink.symm.trans h) (by simp)⟩
  | some link =>
    obtain ⟨hknown, hkeys⟩ := hdb.keys rel link hrel hlink
    have himage : (x link.foreignKey).image.plainText? = (x link.foreignKey).text? :=
      hspelled rel link hrel hlink x hx
    rcases hkeys x hx with hnull | ⟨orel, horel, o, ho, hrefers⟩
    -- a null names no owner, and the row is fetched alone
    · have hnone : ownerId? table (Row.ofColumns table (rel.toJson x)) = none := by
        rw [ownerId?_toJson hlink hknown, himage, hnull]
      refine ⟨_, rfl, answer_getRow_of_no_key hrel hkeyed hx hid hnone, halone fun link' h => ?_⟩
      obtain rfl := Option.some.inj (hlink.symm.trans h)
      exact hnull
    -- what is read from the foreign key is the id of the row it refers to, as text
    · obtain ⟨hokeyed, hoknown, holabel⟩ := hdb.owners link orel hlink horel
      obtain ⟨htable, hidColumn, htenantColumn⟩ := hown link hlink
      obtain ⟨key, hkey, hoid⟩ := hrefers
      have hfound : firstWithId? orel Table.databases.idColumn key = some o :=
        firstWithId?_of_keyed (hidColumn ▸ hokeyed) ho (hidColumn ▸ hoid)
      refine ⟨.under (Row.ofColumns table (rel.toJson x))
        (.free (Row.ofColumns Table.databases (orel.toJson o))), rfl, ?_, ?_⟩
      · rw [answer_getRow_of_key hrel hkeyed hx hid hlink hknown (htable ▸ horel)
          (hidColumn ▸ hokeyed.known) (himage.trans hkey), hfound]
        rfl
      · have hoforeign : (Row.ofColumns Table.databases (orel.toJson o)).facet.Foreign t ↔
            ∃ l, (o Table.labelColumn).text? = some l ∧ l ≠ t.text :=
          foreign_ofColumns_iff rfl (htenantColumn ▸ hoknown) (htenantColumn ▸ holabel o ho)
        rw [foreignOwner_iff hlink horel hokeyed ho ⟨key, hkey, hoid⟩, htenantColumn,
          ← hoforeign]
        simp [Owned.chain]

/-! ## Listed rows -/

/-- Where the listing finds an owner that admits the tenant, the owner is not foreign: ids are
unique, so it is the one that the foreign key refers to. -/
theorem not_foreignOwner_of_admits (hdb : db.Consistent table)
    (h : ∀ link, table.owner = some link → (x link.foreignKey).text? = none ∨
      ∃ orel, db.relation? link.table = some orel ∧ ∃ o ∈ orel.tuples,
        (o link.tenantColumn).Admits t ∧
          ∃ s, (x link.foreignKey).text? = some s ∧ (o link.idColumn).text? = some s) :
    ¬ForeignOwner db table t x := by
  rintro ⟨link, orel, hlink, horel, o, ho, ⟨s, hkey, hoid⟩, l, hl, hne⟩
  rcases h link hlink with hnull | ⟨orel', horel', o', ho', hadmits, s', hkey', hoid'⟩
  · exact absurd (hnull.symm.trans hkey) (by simp)
  · obtain rfl := Option.some.inj (horel.symm.trans horel')
    have hsame : (o link.idColumn).text? = (o' link.idColumn).text? := by
      rw [hoid, hoid', ← hkey, hkey']
    obtain rfl := (hdb.owners link orel hlink horel).1.unique o ho o' ho' hsame
    rcases hadmits with hnone | hsome
    · exact absurd (hl.symm.trans hnone) (by simp)
    · exact hne (Option.some.inj (hl.symm.trans hsome))

/-- A listed row is a row of the table. If the table has labels, then neither the row's label nor
its owner's is another tenant's. -/
theorem of_mem_listAccessible {gate : Gate} {scope : Scope} {rows : List OwnedRow} {r : OwnedRow}
    (hdb : db.Consistent table) (ht : scope.tenant = some t)
    (hlist : answer (replyFrom db) (gate.listAccessible scope catalog table) = .ok rows)
    (hr : r ∈ rows) :
    ∃ rel x, db.relation? table.table = some rel ∧ x ∈ rel.tuples ∧
      r = .free (Row.ofColumns table (rel.toJson x)) ∧ ¬r.item.facet.Foreign t ∧
      (table.tenantColumn.isSome → ¬ForeignOwner db table t x) := by
  rw [answer_listAccessible (Scope.deniesUnscopedCaller_of_tenant ht), answer_list] at hlist
  cases hsel : (rowsSelection table (gate.listFilter scope table) (some listLimit)).rows? db
      (rowsParams (gate.listFilter scope table)) with
  | none =>
    rw [hsel] at hlist
    exact absurd hlist (by simp [selected, Except.map])
  | some sel =>
    obtain ⟨rel, xs⟩ := sel
    rw [hsel] at hlist
    obtain ⟨hrel, hknown, hsat⟩ := Select.of_mem_rows hsel
    have hrows : gate.keep scope
        ((xs.map rel.toJson).map fun data => .free (.ofColumns table data)) = rows :=
      Except.ok.inj hlist
    rw [← hrows] at hr
    obtain ⟨data, hdata, rfl⟩ := List.mem_map.mp (List.mem_filter.mp hr).1
    obtain ⟨x, hx, rfl⟩ := List.mem_map.mp hdata
    obtain ⟨hmem, hcond⟩ := List.mem_filter.mp (hsat x hx)
    refine ⟨rel, x, hrel, hmem, rfl, ?_⟩
    cases hcolumn : table.tenantColumn with
    | none => exact ⟨not_foreign_ofColumns hcolumn _, fun h => absurd h (by simp)⟩
    | some column =>
      rw [Gate.listFilter_of_tenant ht hcolumn] at hknown hcond
      obtain ⟨hlabel, howner⟩ := (Filter.truth_condition_iff rfl rfl).mp (beq_iff_eq.mp hcond)
      have hcolumnKnown : column ∈ rel.columns :=
        Filter.column_mem_of_isKnown rfl (Bool.and_eq_true_iff.mp hknown).1
      refine ⟨?_, fun _ => not_foreignOwner_of_admits hdb howner⟩
      show ¬(Row.ofColumns table (rel.toJson x)).facet.Foreign t
      rw [foreign_ofColumns_iff hcolumn hcolumnKnown (hdb.labels rel column hrel hcolumn x hmem)]
      rintro ⟨l, hl, hne⟩
      rcases hlabel with h | ⟨h, -⟩
      · exact hne (Option.some.inj (hl.symm.trans h))
      · exact absurd (hl.symm.trans h) (by simp)

/-- **A row that a tenant is listed is not denied to it by name**, or the base policy denies it. The
one exception are tables that carry no labels but have owners: they are listed without a filter, and
of their rows those are denied whose owner is another tenant's. Ids and foreign keys are those that
JSON spells as the cast to text does; of others nothing is said. -/
theorem named_access_of_listed {gate : Gate} {scope : Scope} {rows : List OwnedRow} {r : OwnedRow}
    (hdb : db.Consistent table) (hspelled : db.SpelledAlike table)
    (hown : table.OwnedByDatabases) (ht : scope.tenant = some t)
    (hlist : answer (replyFrom db) (gate.listAccessible scope catalog table) = .ok rows)
    (hr : r ∈ rows) :
    ∃ rel x row, db.relation? table.table = some rel ∧ x ∈ rel.tuples ∧
      r = .free (Row.ofColumns table (rel.toJson x)) ∧ row.item = r.item ∧
      (table.tenantColumn.isSome ∨ ¬ForeignOwner db table t x →
        answer (replyFrom db) (gate.getAccessible scope catalog table r.item.id) =
          (gate.policy.raise scope (resource row)).map fun _ => row) ∧
      (table.tenantColumn = none → ForeignOwner db table t x →
        answer (replyFrom db) (gate.getAccessible scope catalog table r.item.id) =
          .error (.accessDenied table.kind r.item.id)) := by
  obtain ⟨rel, x, hrel, hx, rfl, hlabel, howner⟩ := of_mem_listAccessible hdb ht hlist hr
  have hid := id_ofColumns (hdb.ids rel hrel) (hspelled.ids rel hrel) hx
  obtain ⟨row, hitem, hrow, hforeign⟩ :=
    exists_answer_getRow hdb hspelled.keys hown hrel hx hid (t := t)
  have hnamed : answer (replyFrom db) (gate.getAccessible scope catalog table
      (Row.ofColumns table (rel.toJson x)).id) = gate.checked scope row := by
    rw [answer_getAccessible, hrow]
  have hdeny : tenantCheck scope (resource row) = .deny ↔ ForeignOwner db table t x := by
    rw [tenantCheck_eq_deny_iff ht, exists_foreign_resource_iff, hforeign]
    exact or_iff_right hlabel
  refine ⟨rel, x, row, hrel, hx, rfl, hitem, fun h => ?_, fun _ h => ?_⟩
  · have hnot : ¬ForeignOwner db table t x := h.elim howner fun hn => hn
    exact hnamed.trans (Gate.checked_of_not_deny fun hd => hnot (hdeny.mp hd))
  · refine hnamed.trans ((Gate.checked_of_deny (hdeny.mpr h)).trans ?_)
    rw [hitem]
    rfl

/-! ## Two tables over the same databases -/

/-- A row with the given values; what is not given is null. -/
def tupleOf (values : List (String × Value)) : Tuple := fun column =>
  (values.lookup column).getD .null

/-- A database without a label, and one of a tenant's. -/
def sampleDatabases : Relation :=
  ⟨["id", "tenant_id"], [tupleOf [("id", .ofInt 1)],
    tupleOf [("id", .ofInt 2), ("tenant_id", .ofText "globex")]]⟩

/-- A data source with the label of another tenant, in the database without one. -/
def sampleDatasets : Relation :=
  ⟨["id", "database_id", "tenant_id"], [tupleOf [("id", .ofInt 10), ("database_id", .ofInt 1),
    ("tenant_id", .ofText "acme")]]⟩

/-- A report, which cannot carry a label, in the tenant's database. -/
def sampleReports : Relation :=
  ⟨["id", "database_id"], [tupleOf [("id", .ofInt 10), ("database_id", .ofInt 2)]]⟩

def reports : Table := ⟨.chart, "reports", "id", none, some Table.databaseLink⟩

/-- The contents with these three tables. -/
def sampleContent : Content where
  relation? name :=
    [("dbs", sampleDatabases), ("tables", sampleDatasets), ("reports", sampleReports)].lookup name
  order _ xs := xs
  order_perm _ _ := .refl _

def sampleScope : Scope := .of (.resolved ⟨"acme"⟩ .header default) none

theorem sampleDatabases_keyed : sampleDatabases.Keyed "id" := by
  refine Relation.keyed_of_nodup (by decide) (fun o ho => ?_) (by decide)
  simp only [sampleDatabases, List.mem_cons, List.not_mem_nil, or_false] at ho
  rcases ho with rfl | rfl
  · exact Option.some_ne_none "1"
  · exact Option.some_ne_none "2"

theorem sampleDatabases_labels : ∀ o ∈ sampleDatabases.tuples, (o "tenant_id").IsLabel := by
  intro o ho
  simp only [sampleDatabases, List.mem_cons, List.not_mem_nil, or_false] at ho
  rcases ho with rfl | rfl
  · exact .inl rfl
  · exact .inr ⟨"globex", rfl⟩

/-- A table with one row, whose foreign key refers to a database. -/
theorem consistent_of_single {databases : Relation} {o : Tuple}
    (hrel : db.relation? table.table = some rel) (howner : table.owner = some Table.databaseLink)
    (hx : rel.tuples = [x]) (hknown : table.idColumn ∈ rel.columns)
    (hid : (x table.idColumn).text? ≠ none)
    (hlabel : ∀ column, table.tenantColumn = some column → (x column).IsLabel)
    (hkey : "database_id" ∈ rel.columns) (hdatabases : db.relation? "dbs" = some databases)
    (hkeyed : databases.Keyed "id") (hlabeled : "tenant_id" ∈ databases.columns)
    (hlabels : ∀ o ∈ databases.tuples, (o "tenant_id").IsLabel) (ho : o ∈ databases.tuples)
    (hrefers : (x "database_id").Refers (o "id")) : db.Consistent table where
  ids rel' hrel' := by
    obtain rfl := Option.some.inj (hrel.symm.trans hrel')
    refine Relation.keyed_of_nodup hknown (fun y hy => ?_) (by simp [hx])
    rw [hx, List.mem_singleton] at hy
    exact hy ▸ hid
  labels rel' column hrel' hcolumn y hy := by
    obtain rfl := Option.some.inj (hrel.symm.trans hrel')
    rw [hx, List.mem_singleton] at hy
    exact hy ▸ hlabel column hcolumn
  keys rel' link hrel' hlink := by
    obtain rfl := Option.some.inj (hrel.symm.trans hrel')
    obtain rfl := Option.some.inj (howner.symm.trans hlink)
    refine ⟨hkey, fun y hy => .inr ⟨databases, hdatabases, o, ho, ?_⟩⟩
    rw [hx, List.mem_singleton] at hy
    exact hy ▸ hrefers
  owners link orel hlink horel := by
    obtain rfl := Option.some.inj (howner.symm.trans hlink)
    obtain rfl := Option.some.inj (hdatabases.symm.trans horel)
    exact ⟨hkeyed, hlabeled, hlabels⟩

/-- A single row's id and foreign key are spelled alike if they are whole numbers. -/
theorem spelledAlike_of_single {n m : Int} (hrel : db.relation? table.table = some rel)
    (howner : table.owner = some Table.databaseLink) (hx : rel.tuples = [x])
    (hid : x table.idColumn = .ofInt n) (hkey : x "database_id" = .ofInt m) :
    db.SpelledAlike table where
  ids rel' hrel' y hy := by
    obtain rfl := Option.some.inj (hrel.symm.trans hrel')
    rw [hx, List.mem_singleton] at hy
    rw [hy, hid]
    exact Value.spelledAlike_ofInt n
  keys rel' link hrel' hlink y hy := by
    obtain rfl := Option.some.inj (hrel.symm.trans hrel')
    obtain rfl := Option.some.inj (howner.symm.trans hlink)
    rw [hx, List.mem_singleton] at hy
    show (y "database_id").SpelledAlike
    rw [hy, hkey]
    exact Value.spelledAlike_ofInt m

theorem sampleContent_consistent_datasets : sampleContent.Consistent .datasets :=
  consistent_of_single (o := tupleOf [("id", .ofInt 1)]) rfl rfl rfl (by decide) (by decide)
    (fun column h => by obtain rfl := Option.some.inj h; exact .inr ⟨"acme", rfl⟩) (by decide)
    rfl sampleDatabases_keyed (by decide) sampleDatabases_labels List.mem_cons_self
    ⟨"1", rfl, rfl⟩

theorem sampleContent_consistent_reports : sampleContent.Consistent reports :=
  consistent_of_single (o := tupleOf [("id", .ofInt 2), ("tenant_id", .ofText "globex")])
    rfl rfl rfl (by decide) (by decide) (fun column h => absurd h (by simp [reports])) (by decide)
    rfl sampleDatabases_keyed (by decide) sampleDatabases_labels
    (List.mem_cons_of_mem _ List.mem_cons_self) ⟨"2", rfl, rfl⟩

theorem sampleContent_spelledAlike_datasets : sampleContent.SpelledAlike .datasets :=
  spelledAlike_of_single rfl rfl rfl (rfl : _ = Value.ofInt 10) (rfl : _ = Value.ofInt 1)

theorem sampleContent_spelledAlike_reports : sampleContent.SpelledAlike reports :=
  spelledAlike_of_single rfl rfl rfl (rfl : _ = Value.ofInt 10) (rfl : _ = Value.ofInt 2)

theorem datasets_ownedByDatabases : Table.datasets.OwnedByDatabases := by
  intro link hlink
  obtain rfl := Option.some.inj hlink
  exact ⟨rfl, rfl, rfl⟩

/-- The data source is listed, and what its name is answered is up to the base policy. -/
theorem named_access_of_listed_sample :
    let gate : Gate := ⟨.allowAll, false⟩
    sampleContent.Consistent .datasets ∧ sampleContent.SpelledAlike .datasets ∧
      Table.datasets.OwnedByDatabases ∧
      (answer (replyFrom sampleContent) (gate.listAccessible sampleScope catalog .datasets)).map
        (fun rows => rows.map fun r => r.item.id) = .ok ["10"] ∧
      ∃ row, answer (replyFrom sampleContent)
        (gate.getAccessible sampleScope catalog .datasets "10") = .ok row := by
  intro gate
  refine ⟨sampleContent_consistent_datasets, sampleContent_spelledAlike_datasets,
    datasets_ownedByDatabases, rfl, ?_⟩
  obtain ⟨rows, hrows⟩ : ∃ rows, answer (replyFrom sampleContent)
      (gate.listAccessible sampleScope catalog .datasets) = .ok rows := ⟨_, rfl⟩
  obtain rfl := Except.ok.inj hrows
  obtain ⟨_, _, row, -, -, -, -, hnamed, -⟩ := named_access_of_listed
    sampleContent_consistent_datasets sampleContent_spelledAlike_datasets
    datasets_ownedByDatabases (rfl : sampleScope.tenant = some ⟨"acme"⟩) hrows List.mem_cons_self
  exact ⟨row, hnamed (.inl rfl)⟩

/-- The report is listed, since it has no label that a filter could look at; by its name it is
denied, since its database is another tenant's. -/
theorem listed_report_denied :
    let gate : Gate := ⟨.allowAll, false⟩
    sampleContent.Consistent reports ∧ sampleContent.SpelledAlike reports ∧
      sampleScope.tenant = some ⟨"acme"⟩ ∧
      (answer (replyFrom sampleContent) (gate.listAccessible sampleScope catalog reports)).map
        (fun rows => rows.map fun r => r.item.id) = .ok ["10"] ∧
      answer (replyFrom sampleContent) (gate.getAccessible sampleScope catalog reports "10") =
        .error (.accessDenied .chart "10") :=
  ⟨sampleContent_consistent_reports, sampleContent_spelledAlike_reports, rfl, rfl, rfl⟩

/-! ## A key that is padded -/

/-- A text in a column of four characters: its blanks are kept in JSON and lost in the cast. -/
def paddedKey : Value := ⟨some "2", .text "2   "⟩

/-- The tenant's data source in another tenant's database, which has a padded key. -/
def paddedContent : Content where
  relation? name :=
    [("dbs", ⟨["id", "tenant_id"], [tupleOf [("id", paddedKey), ("tenant_id", .ofText "globex")]]⟩),
      ("tables", (⟨["id", "database_id", "tenant_id"], [tupleOf [("id", .ofInt 10),
        ("database_id", paddedKey), ("tenant_id", .ofText "acme")]]⟩ : Relation))].lookup name
  order _ xs := xs
  order_perm _ _ := .refl _

theorem paddedContent_consistent : paddedContent.Consistent .datasets := by
  refine consistent_of_single (o := tupleOf [("id", paddedKey), ("tenant_id", .ofText "globex")])
    rfl rfl rfl (by decide) (by decide) (fun column h => ?_) (by decide) rfl
    (Relation.keyed_of_nodup (by decide) (fun o ho => ?_) (by decide)) (by decide)
    (fun o ho => ?_) List.mem_cons_self ⟨"2", rfl, rfl⟩
  · obtain rfl := Option.some.inj h
    exact .inr ⟨"acme", rfl⟩
  · obtain rfl := List.mem_singleton.mp ho
    exact Option.some_ne_none "2"
  · obtain rfl := List.mem_singleton.mp ho
    exact .inr ⟨"globex", rfl⟩

/-- **A padded key's owner is missed**: the contents are consistent, but no database has the id that
the foreign key is in JSON, and the row passes for one that belongs to none. -/
theorem padded_owner_missed :
    let gate : Gate := ⟨.allowAll, false⟩
    paddedContent.Consistent .datasets ∧ ¬paddedContent.SpellsKeysAlike .datasets ∧
      (∃ rel x, paddedContent.relation? "tables" = some rel ∧ x ∈ rel.tuples ∧
        ForeignOwner paddedContent .datasets ⟨"acme"⟩ x) ∧
      (answer (replyFrom paddedContent) (gate.getAccessible sampleScope catalog .datasets "10")).map
        (fun row => row.chain.map Row.id) = .ok ["10"] := by
  intro gate
  refine ⟨paddedContent_consistent, fun h => ?_, ⟨_, _, rfl, List.mem_cons_self, ?_⟩, rfl⟩
  · have hspelled : some "2   " = some "2" := h _ _ rfl rfl _ List.mem_cons_self
    exact absurd hspelled (by decide)
  · exact ⟨_, _, rfl, rfl, _, List.mem_cons_self, ⟨"2", rfl, rfl⟩, "globex", rfl, by decide⟩

end Database

end Tenancy
