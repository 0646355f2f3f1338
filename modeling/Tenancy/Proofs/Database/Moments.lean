import Tenancy.Proofs.Database.Agreement
import Tenancy.Proofs.Database.NamedAccess

/-!
# The moments of access by name

Access by name asks the database twice: for the row, and then for the database that the row belongs
to. Nothing holds the two statements together, and others may commit in between. So what is decided
on is the row at one instant and its database at a later one; a `Schedule` says what is stored at
each instant and when the statements are answered.

If the call succeeds, each of the two was fit to be shown at its own instant. Both are at any
instant at which the row is still what was read and the database already is (`passes_if_kept`).
There need not be one if both change in between: then the call can succeed although there was never
anything that it should have shown (`never_passed`). All this is about contents that are consistent
at each instant, with foreign keys that JSON spells as the cast to text does.
-/

set_option autoImplicit false

namespace Tenancy.Database

open Sql Program

/-! ## Contents over time -/

/-- What is stored at each instant, and the instants of a call: its beginning, those at which its
two statements are answered, and its end. What others commit is what changes from one instant to
the next. -/
structure Schedule where
  content : Nat → Content
  begins : Nat
  first : Nat
  second : Nat
  ends : Nat
  begins_le_first : begins ≤ first
  first_le_second : first ≤ second
  second_le_ends : second ≤ ends

namespace Schedule

variable (schedule : Schedule)

def moment : Nat → Nat
  | 0 => schedule.first
  | _ + 1 => schedule.second

/-- A statement is answered from what is stored at its instant. -/
def reply (n : Nat) (st : Statement) : Reply × Nat :=
  (replyFrom (schedule.content (schedule.moment n)) st, n + 1)

def During (u : Nat) : Prop := schedule.begins ≤ u ∧ u ≤ schedule.ends

theorem during_first : schedule.During schedule.first :=
  ⟨schedule.begins_le_first, Nat.le_trans schedule.first_le_second schedule.second_le_ends⟩

theorem during_second : schedule.During schedule.second :=
  ⟨Nat.le_trans schedule.begins_le_first schedule.first_le_second, schedule.second_le_ends⟩

end Schedule

/-! ## Rows at an instant -/

/-- A row of a table that has an id. -/
structure Held (db : Content) (table : Table) (id : String) (rel : Relation) (x : Tuple) :
    Prop where
  relation : db.relation? table.table = some rel
  mem : x ∈ rel.tuples
  id : (x table.idColumn).text? = some id

def OwnAdmits (t : TenantId) (table : Table) (data : Json) : Prop :=
  ∀ column, table.tenantColumn = some column → Admits t data column

/-- The row with an id and the database that its foreign key points at are fit to be shown to a
tenant: neither carries the label of another one. -/
def Passes (db : Content) (table : Table) (t : TenantId) (id : String) : Prop :=
  ∃ rel x, Held db table id rel x ∧ OwnAdmits t table (rel.toJson x) ∧ ¬ForeignOwner db table t x

/-- A row that was read is there, with the label and the foreign key that were read. -/
def StillHolds (db : Content) (table : Table) (id : String) (rel : Relation) (x : Tuple) : Prop :=
  ∃ rel' x', Held db table id rel' x' ∧
    (∀ column, table.tenantColumn = some column →
      (rel'.toJson x').member? column = (rel.toJson x).member? column) ∧
    ∀ link, table.owner = some link → (x' link.foreignKey).text? = (x link.foreignKey).text?

/-- What a row's foreign key refers to in the first content is in the second one, and has the same
label there. -/
def KeepsOwner (db db' : Content) (table : Table) (x : Tuple) : Prop :=
  ∀ link orel o, table.owner = some link → db.relation? link.table = some orel → o ∈ orel.tuples →
    (x link.foreignKey).Refers (o link.idColumn) →
    ∃ orel', db'.relation? link.table = some orel' ∧ ∃ o' ∈ orel'.tuples,
      (o' link.idColumn).text? = (o link.idColumn).text? ∧
        (o' link.tenantColumn).text? = (o link.tenantColumn).text?

section Rows

variable {db db' : Content} {table : Table} {rel : Relation} {x : Tuple} {t : TenantId}
  {id : String}

theorem Held.stillHolds (h : Held db table id rel x) : StillHolds db table id rel x :=
  ⟨rel, x, h, fun _ _ => rfl, fun _ _ => rfl⟩

theorem KeepsOwner.refl (db : Content) (table : Table) (x : Tuple) : KeepsOwner db db table x :=
  fun _ orel o _ horel ho _ => ⟨orel, horel, o, ho, rfl, rfl⟩

/-- Whether an owner is foreign depends on the foreign key alone. -/
theorem foreignOwner_congr {x' : Tuple} (h : ForeignOwner db table t x)
    (hkey : ∀ link, table.owner = some link →
      (x link.foreignKey).text? = (x' link.foreignKey).text?) : ForeignOwner db table t x' := by
  obtain ⟨link, orel, hlink, horel, o, ho, ⟨s, hs, hid⟩, hlabel⟩ := h
  exact ⟨link, orel, hlink, horel, o, ho, ⟨s, (hkey link hlink).symm.trans hs, hid⟩, hlabel⟩

theorem foreignOwner_of_keepsOwner (h : ForeignOwner db table t x)
    (hkeeps : KeepsOwner db db' table x) : ForeignOwner db' table t x := by
  obtain ⟨link, orel, hlink, horel, o, ho, ⟨s, hkey, hid⟩, l, hl, hne⟩ := h
  obtain ⟨orel', horel', o', ho', hid', hlabel⟩ :=
    hkeeps link orel o hlink horel ho ⟨s, hkey, hid⟩
  exact ⟨link, orel', hlink, horel', o', ho', ⟨s, hkey, hid'.trans hid⟩, l, hlabel.trans hl, hne⟩

theorem readable_toJson {column : String} (h : (x column).IsLabel) :
    Readable (rel.toJson x) column := by
  by_cases hknown : column ∈ rel.columns
  · unfold Readable
    rw [Relation.member?_toJson hknown]
    rcases h with h | ⟨l, h⟩
    · exact .inr (.inl (congrArg (some ·.image) h))
    · exact .inr (.inr ⟨l, congrArg (some ·.image) h⟩)
  · refine .inl ?_
    unfold Relation.toJson
    rw [Json.member?_ofPairs, if_neg hknown]

/-- Where labels are labels, a row's own label admits the tenant unless it names another one. -/
theorem ownAdmits_iff (hdb : db.Consistent table) (hrel : db.relation? table.table = some rel)
    (hx : x ∈ rel.tuples) :
    OwnAdmits t table (rel.toJson x) ↔ ¬(Row.ofColumns table (rel.toJson x)).facet.Foreign t := by
  constructor
  · intro hadmits hfor
    obtain ⟨hlabeled, l, hl, hne⟩ := Row.foreign_facet_iff.mp hfor
    obtain ⟨column, hcolumn⟩ := Option.isSome_iff_exists.mp hlabeled
    have hread : ((rel.toJson x).member? column).bind TenantId.ofJson? = some l := by
      rw [← hl]
      unfold Row.ofColumns
      rw [hcolumn]
      rfl
    rcases hadmits column hcolumn with h | h | h
    · rw [h] at hread
      exact absurd hread (by simp)
    · rw [h] at hread
      exact absurd hread (by simp [TenantId.ofJson?, Json.asText?])
    · rw [h] at hread
      exact hne (Option.some.inj hread).symm
  · intro hclear column hcolumn
    exact admits_of_not_foreign hcolumn
      (readable_toJson (hdb.labels rel column hrel hcolumn x hx)) hclear

/-! ## Rows as they are replied -/

theorem firstObject_rowsReply (sel : Option (Relation × List Tuple)) :
    firstObject (rowsReply sel) = (selected sel).map List.head? := by
  rcases sel with _ | ⟨rel, xs⟩
  · rfl
  · have hcells : (xs.map fun x => [Cell.json (rel.toJson x)]) =
        (xs.map rel.toJson).map fun j => [Cell.json j] := by
      rw [List.map_map]
      rfl
    unfold rowsReply firstObject
    dsimp only
    rw [hcells, mapM_firstColumn]
    rfl

/-- What is replied to an id is a row that has it. -/
theorem exists_held_of_reply {data : Json}
    (h : firstObject (replyFrom db (.rowById table id)) = .ok (some data)) :
    ∃ rel x, Held db table id rel x ∧ data = rel.toJson x := by
  rw [replyFrom, firstObject_rowsReply] at h
  cases hsel : (byIdSelection table).rows? db [id] with
  | none =>
    rw [hsel] at h
    exact absurd h (by simp [selected, Except.map])
  | some sel =>
    obtain ⟨rel, xs⟩ := sel
    rw [hsel] at h
    obtain ⟨hrel, -, hsat⟩ := Select.of_mem_rows hsel
    obtain ⟨x, hx, rfl⟩ := List.mem_map.mp (List.mem_of_mem_head? (Except.ok.inj h))
    have hfound := hsat x hx
    rw [satisfying_byId, List.mem_filter, beq_iff_eq] at hfound
    exact ⟨rel, x, ⟨hrel, hfound.1, hfound.2⟩, rfl⟩

theorem Held.reply (h : Held db table id rel x) (hkeyed : rel.Keyed table.idColumn) :
    firstObject (replyFrom db (.rowById table id)) = .ok (some (rel.toJson x)) := by
  have hfirst := firstWithId?_of_keyed hkeyed h.mem h.id
  rw [replyFrom, firstObject_rowsReply, rows_byId h.relation hkeyed.known]
  show Except.ok ((((byIdSelection table).satisfying db [id] rel).map rel.toJson).head?) = _
  rw [satisfying_byId, List.head?_map, List.head?_filter]
  exact congrArg (fun found : Option Tuple => Except.ok (found.map rel.toJson)) hfirst

/-- **To pass at an instant is to be let through by the gate if nothing changes any more.** -/
theorem passes_iff_answer (hdb : db.Consistent table) (hspelled : db.SpellsKeysAlike table)
    (hown : table.OwnedByDatabases) {scope : Scope} (ht : scope.tenant = some t) :
    Passes db table t id ↔ ∃ row, answer (replyFrom db) (getRow table id) = .ok (some row) ∧
      tenantCheck scope (resource row) ≠ .deny := by
  have hdecided : ∀ {rel x}, Held db table id rel x → ∃ row : OwnedRow,
      answer (replyFrom db) (getRow table id) = .ok (some row) ∧
        (tenantCheck scope (resource row) ≠ .deny ↔
          OwnAdmits t table (rel.toJson x) ∧ ¬ForeignOwner db table t x) := by
    intro rel x h
    obtain ⟨row, -, hrow, hforeign⟩ :=
      exists_answer_getRow hdb hspelled hown h.relation h.mem h.id (t := t)
    refine ⟨row, hrow, ?_⟩
    rw [ne_eq, tenantCheck_eq_deny_iff ht, exists_foreign_resource_iff, hforeign, not_or,
      ownAdmits_iff hdb h.relation h.mem]
  constructor
  · rintro ⟨rel, x, h, hpass⟩
    obtain ⟨row, hrow, hiff⟩ := hdecided h
    exact ⟨row, hrow, hiff.mpr hpass⟩
  · rintro ⟨row, hrow, hcheck⟩
    have hsession : (session (fun (_ : Unit) st => (replyFrom db st, ())) ()
        (getRow table id)).1 = .ok (some row) := hrow
    obtain ⟨data, hfirst, -⟩ := exists_of_getRow hsession
    obtain ⟨rel, x, h, -⟩ := exists_held_of_reply hfirst
    obtain ⟨row', hrow', hiff⟩ := hdecided h
    obtain rfl := Option.some.inj (Except.ok.inj (hrow.symm.trans hrow'))
    exact ⟨rel, x, h, hiff.mp hcheck⟩

end Rows

/-! ## Two statements at two instants -/

section Moments

variable {schedule : Schedule} {gate : Gate} {scope : Scope} {table : Table} {t : TenantId}
  {id : String} {r : OwnedRow}

/-- What a successful call has seen: a row at the first instant whose own label admits the tenant,
and at the second instant no label of another tenant on what that row's foreign key refers to. -/
theorem exists_held_of_getAccessible (hdb : ∀ u, (schedule.content u).Consistent table)
    (hspelled : (schedule.content schedule.first).SpellsKeysAlike table)
    (hown : table.OwnedByDatabases) (ht : scope.tenant = some t)
    (hok : (session schedule.reply 0 (gate.getAccessible scope catalog table id)).1 = .ok r) :
    ∃ rel x, Held (schedule.content schedule.first) table id rel x ∧
      r.item = .ofColumns table (rel.toJson x) ∧ OwnAdmits t table (rel.toJson x) ∧
      ¬ForeignOwner (schedule.content schedule.second) table t x := by
  obtain ⟨hrow, hclear⟩ := of_getAccessible ht hok
  obtain ⟨data, hfirst, hitem, howner⟩ := exists_of_getRow hrow
  obtain ⟨rel, x, hheld, rfl⟩ := exists_held_of_reply hfirst
  refine ⟨rel, x, hheld, hitem, ?_, ?_⟩
  · rw [ownAdmits_iff (hdb schedule.first) hheld.relation hheld.mem]
    exact fun hfor => hclear ⟨r.item, Owned.item_mem_chain r, hitem ▸ hfor⟩
  · rintro ⟨link, orel, hlink, horel, o, ho, ⟨key, hforeignKey, hid⟩, hlabel⟩
    obtain ⟨hkeyed, hoknown, holabel⟩ := (hdb schedule.second).owners link orel hlink horel
    obtain ⟨htable, hidColumn, htenantColumn⟩ := hown link hlink
    rw [hidColumn] at hkeyed hid
    rw [htenantColumn] at hoknown holabel hlabel
    -- what is read from the foreign key is the id of the database, which is replied to it
    have hheldOwner : Held (schedule.content schedule.second) Table.databases key orel o :=
      ⟨htable ▸ horel, ho, hid⟩
    have hkey : ownerId? table (.ofColumns table (rel.toJson x)) = some key := by
      have hknown := ((hdb schedule.first).keys rel link hheld.relation hlink).1
      have himage : (x link.foreignKey).image.plainText? = (x link.foreignKey).text? :=
        hspelled rel link hheld.relation hlink x hheld.mem
      rw [ownerId?_toJson hlink hknown, himage, hforeignKey]
    have hreply : ownerReply schedule.reply 0 table id key = .ok (some (orel.toJson o)) :=
      hheldOwner.reply hkeyed
    rcases howner key hkey with hnone | ⟨o', ho', hfree⟩
    · exact absurd (hnone.symm.trans hreply) (by simp)
    · obtain rfl := Option.some.inj (Except.ok.inj (ho'.symm.trans hreply))
      refine hclear ⟨_, Owned.owner_mem_chain hfree, ?_⟩
      exact (foreign_ofColumns_iff rfl hoknown (holabel o ho)).mpr hlabel

/-- **What a tenant is given by name passed in two parts**: the row at the first instant, and what
its foreign key refers to at the second one. Both pass at every instant at which the row is still
what was read and its owner has the label that was read. So there is such an instant during the call
if in between the row keeps its label and foreign key, or its owner its label.

The foreign keys that are read are spelled alike in JSON and as text. Without that an owner can be
missed though nothing changes (`padded_owner_missed`). -/
theorem passes_if_kept (hdb : ∀ u, (schedule.content u).Consistent table)
    (hspelled : (schedule.content schedule.first).SpellsKeysAlike table)
    (hown : table.OwnedByDatabases) (ht : scope.tenant = some t)
    (hok : (session schedule.reply 0 (gate.getAccessible scope catalog table id)).1 = .ok r) :
    ∃ rel x, Held (schedule.content schedule.first) table id rel x ∧
      r.item = .ofColumns table (rel.toJson x) ∧ OwnAdmits t table (rel.toJson x) ∧
      ¬ForeignOwner (schedule.content schedule.second) table t x ∧
      (∀ u, StillHolds (schedule.content u) table id rel x →
        KeepsOwner (schedule.content u) (schedule.content schedule.second) table x →
          Passes (schedule.content u) table t id) ∧
      (StillHolds (schedule.content schedule.second) table id rel x ∨
        KeepsOwner (schedule.content schedule.first) (schedule.content schedule.second) table x →
          ∃ u, schedule.During u ∧ Passes (schedule.content u) table t id) := by
  obtain ⟨rel, x, hheld, hitem, hadmits, hclear⟩ :=
    exists_held_of_getAccessible hdb hspelled hown ht hok
  -- an owner that is foreign at such an instant still has its label when it is asked for
  have hpasses : ∀ u, StillHolds (schedule.content u) table id rel x →
      KeepsOwner (schedule.content u) (schedule.content schedule.second) table x →
        Passes (schedule.content u) table t id := by
    rintro u ⟨rel', x', hheld', hlabel, hkey⟩ hkeeps
    refine ⟨rel', x', hheld', fun column hcolumn => ?_, fun hfor => ?_⟩
    · have h := hadmits column hcolumn
      unfold Admits at h ⊢
      rwa [hlabel column hcolumn]
    · exact hclear (foreignOwner_of_keepsOwner (foreignOwner_congr hfor hkey) hkeeps)
  refine ⟨rel, x, hheld, hitem, hadmits, hclear, hpasses, ?_⟩
  rintro (hstill | hkeeps)
  · exact ⟨_, schedule.during_second, hpasses _ hstill (.refl _ _ _)⟩
  · exact ⟨_, schedule.during_first, hpasses _ hheld.stillHolds hkeeps⟩

end Moments

/-! ## A data source and its database, both of which change hands -/

/-- A tenant's data source, with the number 10, in the database with the number 2. -/
def labeledDatasource (label : String) : Tuple :=
  tupleOf [("id", .ofInt 10), ("database_id", .ofInt 2), ("tenant_id", .ofText label)]

def labeledDatasources (label : String) : Relation :=
  ⟨["id", "database_id", "tenant_id"], [labeledDatasource label]⟩

/-- The database with the number 2, which is a tenant's. -/
def labeledDatabase (label : String) : Tuple :=
  tupleOf [("id", .ofInt 2), ("tenant_id", .ofText label)]

def labeledDatabases (label : String) : Relation := ⟨["id", "tenant_id"], [labeledDatabase label]⟩

/-- The contents with these two, the label of the data source first. -/
def labeledContent (rowLabel ownerLabel : String) : Content where
  relation? name :=
    [("tables", labeledDatasources rowLabel),
      ("dbs", labeledDatabases ownerLabel)].lookup name
  order _ xs := xs
  order_perm _ _ := .refl _

/-- A call during which the contents change once, between its two statements. -/
def changedBetween (before after : Content) : Schedule where
  content u := if u = 0 then before else after
  begins := 0
  first := 0
  second := 1
  ends := 1
  begins_le_first := Nat.le_refl 0
  first_le_second := Nat.zero_le 1
  second_le_ends := Nat.le_refl 1

/-- What holds before and after holds at every instant. -/
theorem forall_changedBetween (p : Content → Prop) {before after : Content} (hbefore : p before)
    (hafter : p after) (u : Nat) : p ((changedBetween before after).content u) := by
  show p (if u = 0 then before else after)
  split
  · exact hbefore
  · exact hafter

section Labeled

variable (rowLabel ownerLabel : String)

theorem refers_labeled :
    (labeledDatasource rowLabel "database_id").Refers (labeledDatabase ownerLabel "id") :=
  ⟨"2", rfl, rfl⟩

theorem labeledDatabases_keyed : (labeledDatabases ownerLabel).Keyed "id" := by
  refine Relation.keyed_of_nodup List.mem_cons_self (fun o ho => ?_) (List.nodup_singleton _)
  obtain rfl := List.mem_singleton.mp ho
  exact Option.some_ne_none _

theorem labeledContent_consistent : (labeledContent rowLabel ownerLabel).Consistent .datasets := by
  refine consistent_of_single rfl rfl rfl List.mem_cons_self
    (Option.some_ne_none _) (fun column hcolumn => ?_)
    (List.mem_cons_of_mem _ List.mem_cons_self) rfl (labeledDatabases_keyed ownerLabel)
    (List.mem_cons_of_mem _ List.mem_cons_self) (fun o ho => ?_) List.mem_cons_self
    (refers_labeled rowLabel ownerLabel)
  · obtain rfl := Option.some.inj hcolumn
    exact .inr ⟨rowLabel, rfl⟩
  · obtain rfl := List.mem_singleton.mp ho
    exact .inr ⟨ownerLabel, rfl⟩

theorem labeledContent_spelledAlike :
    (labeledContent rowLabel ownerLabel).SpelledAlike .datasets :=
  spelledAlike_of_single rfl rfl rfl (rfl : _ = Value.ofInt 10) (rfl : _ = Value.ofInt 2)

/-- The data source and its database pass for a tenant if both are the tenant's. -/
theorem passes_labeledContent_iff {t : TenantId} :
    Passes (labeledContent rowLabel ownerLabel) .datasets t "10" ↔
      rowLabel = t.text ∧ ownerLabel = t.text := by
  have hconsistent := labeledContent_consistent rowLabel ownerLabel
  have howner : ForeignOwner (labeledContent rowLabel ownerLabel) .datasets t
      (labeledDatasource rowLabel) ↔ ¬ownerLabel = t.text := by
    rw [foreignOwner_iff rfl rfl (hconsistent.owners _ _ rfl rfl).1 List.mem_cons_self
      (refers_labeled rowLabel ownerLabel)]
    show (∃ l, some ownerLabel = some l ∧ l ≠ t.text) ↔ _
    simp
  have hknown : Table.labelColumn ∈ (labeledDatasources rowLabel).columns :=
    List.mem_cons_of_mem _ (List.mem_cons_of_mem _ List.mem_cons_self)
  have hforeign : (Row.ofColumns .datasets
      ((labeledDatasources rowLabel).toJson (labeledDatasource rowLabel))).facet.Foreign t ↔
        ∃ l, some rowLabel = some l ∧ l ≠ t.text :=
    foreign_ofColumns_iff rfl hknown (.inr ⟨rowLabel, rfl⟩)
  have hlabel : OwnAdmits t .datasets ((labeledDatasources rowLabel).toJson
      (labeledDatasource rowLabel)) ↔ rowLabel = t.text := by
    rw [ownAdmits_iff hconsistent rfl List.mem_cons_self, hforeign]
    simp
  constructor
  · rintro ⟨rel, x, ⟨hrel, hx, -⟩, hadmits, hclear⟩
    obtain rfl := Option.some.inj hrel
    obtain rfl := List.mem_singleton.mp hx
    exact ⟨hlabel.mp hadmits, not_not.mp fun hne => hclear (howner.mpr hne)⟩
  · rintro ⟨hrow, hdb⟩
    exact ⟨_, _, ⟨rfl, List.mem_cons_self, rfl⟩, hlabel.mpr hrow, fun hfor => howner.mp hfor hdb⟩

end Labeled

/-- The database becomes the tenant's just before it is asked for. The data source is given to the
tenant, and both pass at the second instant, though not at the first. -/
theorem passes_if_kept_sample :
    let schedule := changedBetween (labeledContent "acme" "globex") (labeledContent "acme" "acme")
    (∀ u, (schedule.content u).Consistent .datasets) ∧
      (schedule.content schedule.first).SpellsKeysAlike .datasets ∧
      Table.datasets.OwnedByDatabases ∧ acmeScope.tenant = some acme ∧
      (∃ r, (session schedule.reply 0 ((⟨.allowAll, false⟩ : Gate).getAccessible acmeScope catalog
        .datasets "10")).1 = .ok r) ∧
      ¬Passes (schedule.content schedule.first) .datasets acme "10" ∧
      ∃ u, schedule.During u ∧ Passes (schedule.content u) .datasets acme "10" := by
  intro schedule
  have hconsistent : ∀ u, (schedule.content u).Consistent .datasets :=
    forall_changedBetween (fun db => db.Consistent .datasets) (labeledContent_consistent _ _)
      (labeledContent_consistent _ _)
  have hspelled : (schedule.content schedule.first).SpellsKeysAlike .datasets :=
    (labeledContent_spelledAlike "acme" "globex").keys
  obtain ⟨r, hok⟩ : ∃ r, (session schedule.reply 0 ((⟨.allowAll, false⟩ : Gate).getAccessible
      acmeScope catalog .datasets "10")).1 = .ok r := ⟨_, rfl⟩
  refine ⟨hconsistent, hspelled, datasets_ownedByDatabases, rfl, ⟨r, hok⟩, fun h => ?_, ?_⟩
  · exact absurd ((passes_labeledContent_iff "acme" "globex").mp h).2 (by decide)
  · obtain ⟨rel, x, hheld, -, -, -, -, hmoment⟩ :=
      passes_if_kept hconsistent hspelled datasets_ownedByDatabases rfl hok
    -- the row stays as it is, so it is at the second instant what was read at the first
    exact hmoment (.inl ⟨rel, x, ⟨hheld.relation, hheld.mem, hheld.id⟩, fun _ _ => rfl,
      fun _ _ => rfl⟩)

/-- **A call can succeed although there is no instant at which both pass**: the data source goes to
another tenant in the same moment in which its database comes to the caller's. -/
theorem never_passed :
    let schedule := changedBetween (labeledContent "acme" "globex") (labeledContent "globex" "acme")
    (∀ u, (schedule.content u).Consistent .datasets) ∧
      (schedule.content schedule.first).SpellsKeysAlike .datasets ∧
      Table.datasets.OwnedByDatabases ∧ acmeScope.tenant = some acme ∧
      (∃ r, (session schedule.reply 0 ((⟨.allowAll, false⟩ : Gate).getAccessible acmeScope catalog
        .datasets "10")).1 = .ok r) ∧
      ∀ u, schedule.During u → ¬Passes (schedule.content u) .datasets acme "10" := by
  intro schedule
  have hbefore : ¬Passes (labeledContent "acme" "globex") .datasets acme "10" := fun h =>
    absurd ((passes_labeledContent_iff "acme" "globex").mp h).2 (by decide)
  have hafter : ¬Passes (labeledContent "globex" "acme") .datasets acme "10" := fun h =>
    absurd ((passes_labeledContent_iff "globex" "acme").mp h).1 (by decide)
  have hconsistent : ∀ u, (schedule.content u).Consistent .datasets :=
    forall_changedBetween (fun db => db.Consistent .datasets) (labeledContent_consistent _ _)
      (labeledContent_consistent _ _)
  have hspelled : (schedule.content schedule.first).SpellsKeysAlike .datasets :=
    (labeledContent_spelledAlike "acme" "globex").keys
  refine ⟨hconsistent, hspelled, datasets_ownedByDatabases, rfl, ⟨_, rfl⟩, fun u _ => ?_⟩
  exact forall_changedBetween (fun db => ¬Passes db .datasets acme "10") hbefore hafter u

end Tenancy.Database
