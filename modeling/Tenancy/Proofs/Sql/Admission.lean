import Tenancy.Proofs.Sql.Filter
import Tenancy.Proofs.Sql.Reader

/-!
# One filter in two forms

A filter decides about labels in memory and is a condition on rows in SQL. The two are the same
filter (`clause_eq_admits`): the text of the clause, read by the precedence of its operators and with
its parameter taken from the list that it is sent with, is true of a row exactly if the filter admits
the row's label and the label of the row that its foreign key points at. Truth has three values
there, so nulls are where the two could come apart: a label that is missing, a foreign key that is
missing, and an owner whose label is missing.

The foreign key is taken to refer to a row if it is not null, and ids are taken to be unique. Where
it refers to nothing, the clause refuses a row that the filter in memory, which is not told of an
owner, admits.
-/

set_option autoImplicit false

namespace Tenancy

open Sql

/-! ## The owner of a row -/

/-- The label that a value is, if it is not null. -/
def Sql.Value.label? (v : Value) : Option TenantId := v.text?.map TenantId.mk

namespace OwnerLink

/-- The row that a row's foreign key points at. -/
def target? (link : OwnerLink) (db : Content) (x : Tuple) : Option Tuple :=
  (x link.foreignKey).text?.bind fun key =>
    (db.relation? link.table).bind fun rel =>
      rel.tuples.find? fun o => (o link.idColumn).text? == some key

/-- The foreign key of a row is null or the id of exactly one row. -/
structure Refers (link : OwnerLink) (db : Content) (x : Tuple) : Prop where
  exists_row : ∀ key, (x link.foreignKey).text? = some key →
    ∃ rel, db.relation? link.table = some rel ∧
      ∃ o ∈ rel.tuples, (o link.idColumn).text? = some key
  unique : ∀ rel, db.relation? link.table = some rel → ∀ o ∈ rel.tuples, ∀ o' ∈ rel.tuples,
    ∀ key, (o link.idColumn).text? = some key → (o' link.idColumn).text? = some key → o = o'

/-- The row that is pointed at is the only one with the id. -/
theorem Refers.target?_eq_some_iff {link : OwnerLink} {db : Content} {x o : Tuple}
    (h : link.Refers db x) :
    link.target? db x = some o ↔ ∃ key rel, (x link.foreignKey).text? = some key ∧
      db.relation? link.table = some rel ∧ o ∈ rel.tuples ∧
      (o link.idColumn).text? = some key := by
  unfold target?
  simp only [Option.bind_eq_some_iff]
  constructor
  · rintro ⟨key, hkey, rel, hrel, hfind⟩
    exact ⟨key, rel, hkey, hrel, List.mem_of_find?_eq_some hfind,
      by simpa using List.find?_some hfind⟩
  · rintro ⟨key, rel, hkey, hrel, ho, hid⟩
    refine ⟨key, hkey, rel, hrel, ?_⟩
    cases hfind : rel.tuples.find? fun o => (o link.idColumn).text? == some key with
    | none => exact absurd (List.find?_eq_none.mp hfind o ho) (by simp [hid])
    | some o' =>
      have hid' : (o' link.idColumn).text? = some key := by simpa using List.find?_some hfind
      rw [h.unique rel hrel o' (List.mem_of_find?_eq_some hfind) o ho key hid' hid]

/-- What a row belongs to is admitted if it belongs to nothing, or to a row whose label is. -/
theorem Refers.owner_admits_iff {link : OwnerLink} {db : Content} {x : Tuple}
    (h : link.Refers db x) (t : TenantId) :
    ((x link.foreignKey).text? = none ∨
        ∃ rel, db.relation? link.table = some rel ∧ ∃ o ∈ rel.tuples,
          (o link.tenantColumn).Admits t ∧
            ∃ s, (x link.foreignKey).text? = some s ∧ (o link.idColumn).text? = some s) ↔
      ∀ o, link.target? db x = some o → (o link.tenantColumn).Admits t := by
  constructor
  · rintro (hnull | ⟨rel, hrel, o, ho, hadmits, key, hkey, hid⟩) o' hpoints
    · obtain ⟨key, -, hkey, -⟩ := h.target?_eq_some_iff.mp hpoints
      exact absurd (hnull.symm.trans hkey) (by simp)
    · have htarget := h.target?_eq_some_iff.mpr ⟨key, rel, hkey, hrel, ho, hid⟩
      obtain rfl := Option.some.inj (htarget.symm.trans hpoints)
      exact hadmits
  · intro hall
    cases hkey : (x link.foreignKey).text? with
    | none => exact .inl rfl
    | some key =>
      obtain ⟨rel, hrel, o, ho, hid⟩ := h.exists_row key hkey
      have htarget := h.target?_eq_some_iff.mpr ⟨key, rel, hkey, hrel, ho, hid⟩
      exact .inr ⟨rel, hrel, o, ho, hall o htarget, key, rfl, hid⟩

end OwnerLink

namespace Filter

/-- The label of what a row belongs to, if it belongs to something that has one. -/
def ownerLabel? (f : Filter) (db : Content) (x : Tuple) : Option TenantId :=
  f.owner.bind fun link => (link.target? db x).bind fun o => (o link.tenantColumn).label?

/-! ## The clause as it is read -/

theorem isGrouped_condition (f : Filter) (relation : String) (index : Nat) :
    (f.condition relation index).isGrouped = true := by
  unfold condition ownCondition ownerCondition
  cases f.owner <;> cases f.includeUnscoped <;>
    simp [Cond.isGrouped, Cond.rank]

/-- The clause is read as the condition that it was written from. -/
theorem ofSql?_bind (f : Filter) {relation : String} (h : isPlain relation = true)
    (bound : List String) :
    Cond.ofSql? (f.bind relation bound).sql = some (f.condition relation (bound.length + 1)) :=
  Cond.ofSql?_sql (f.isPlain_condition h _) (f.isGrouped_condition relation _)

/-- The parameter of the clause is where the tenant is in the list. -/
theorem params_bind (f : Filter) (relation : String) (bound : List String) :
    (f.bind relation bound).params[bound.length + 1 - 1]? = some f.tenant.text := by
  simp [bind]

/-! ## The filter in memory -/

theorem text?_eq_some_iff {v : Value} {t : TenantId} :
    v.text? = some t.text ↔ v.label? = some t := by
  obtain ⟨s⟩ := t
  cases h : v.text? <;> simp [Value.label?, h]

theorem admits_label?_iff {f : Filter} {v : Value} {ownerLabel : Option TenantId} :
    f.admits v.label? ownerLabel = true ↔
      (v.text? = some f.tenant.text ∨ v.text? = none ∧ f.includeUnscoped = true) ∧
        ∀ l, ownerLabel = some l → l = f.tenant := by
  unfold admits
  rw [Bool.and_eq_true, text?_eq_some_iff]
  refine and_congr ?_ ?_
  · cases h : v.text? <;> simp [Value.label?, h]
  · cases ownerLabel <;> simp

theorem admits_iff_label? {v : Value} {t : TenantId} :
    v.Admits t ↔ ∀ l, v.label? = some l → l = t := by
  unfold Value.Admits
  rw [text?_eq_some_iff]
  cases h : v.text? <;> simp [Value.label?, h]

/-- **The clause and the filter in memory are the same filter.** -/
theorem clause_holds_iff_admits {table : Table} {column : String}
    (hcolumn : table.tenantColumn = some column) (tenant : TenantId) (includeUnscoped : Bool)
    {relation : String} (hrelation : isPlain relation = true) (bound : List String)
    {db : Content} {x : Tuple} (howner : ∀ link, table.owner = some link → link.Refers db x) :
    ∃ f c, Filter.of? table tenant includeUnscoped = some f ∧
      Cond.ofSql? (f.bind relation bound).sql = some c ∧
      (c.truth db (f.bind relation bound).params [(relation, x)] = some true ↔
        f.admits (x column).label? (f.ownerLabel? db x) = true) := by
  let f : Filter := ⟨column, tenant, includeUnscoped, table.owner⟩
  have hf : Filter.of? table tenant includeUnscoped = some f := by
    rw [Filter.of?, hcolumn]
    rfl
  refine ⟨f, _, hf, f.ofSql?_bind hrelation bound, ?_⟩
  have henv : [(relation, x)].lookup relation = some x := by simp
  rw [truth_condition_iff henv (f.params_bind relation bound), admits_label?_iff]
  refine and_congr_right' ?_
  show (∀ link, table.owner = some link → _) ↔ ∀ l, (table.owner.bind _) = some l → _
  cases hlink : table.owner with
  | none => simp
  | some link =>
    simp only [Option.some.injEq, forall_eq', Option.bind_some, Option.bind_eq_some_iff]
    rw [(howner link hlink).owner_admits_iff]
    constructor
    · rintro h l ⟨o, htarget, hlabel⟩
      exact admits_iff_label?.mp (h o htarget) l hlabel
    · intro h o htarget
      exact admits_iff_label?.mpr fun l hlabel => h l ⟨o, htarget, hlabel⟩

/-- A row with some columns set, the others being null. -/
def rowOf (cells : List (String × Value)) : Tuple := fun column => (cells.lookup column).getD .null

/-- Databases without a label and with one. -/
def labelled : Relation :=
  ⟨["id", "tenant_id"],
    [rowOf [("id", .ofInt 1)], rowOf [("id", .ofInt 2), ("tenant_id", .ofText "globex")]]⟩

/-- The contents with these databases. -/
def labelledContent : Content where
  relation? name := [("dbs", labelled)].lookup name
  order _ xs := xs
  order_perm _ _ := .refl _

theorem refers_labelled :
    Table.databaseLink.Refers labelledContent (rowOf [("database_id", .ofInt 2)]) where
  exists_row key hkey := by
    obtain rfl := Option.some.inj hkey
    exact ⟨labelled, rfl, _, List.mem_cons_of_mem _ List.mem_cons_self, rfl⟩
  unique rel hrel o ho o' ho' key hid hid' := by
    obtain rfl := Option.some.inj hrel
    simp only [labelled, List.mem_cons, List.not_mem_nil, or_false] at ho ho'
    have hsame := hid.trans hid'.symm
    rcases ho with rfl | rfl <;> rcases ho' with rfl | rfl
    · rfl
    · exact absurd hsame (by decide)
    · exact absurd hsame (by decide)
    · rfl

/-- A data source without a label, in the database of another tenant, behind a bound parameter. -/
theorem clause_holds_iff_admits_sample :
    Table.datasets.tenantColumn = some "tenant_id" ∧ isPlain "main" = true ∧
      (∀ link, Table.datasets.owner = some link →
        link.Refers labelledContent (rowOf [("database_id", .ofInt 2)])) ∧
      ∃ f c, Filter.of? .datasets ⟨"acme"⟩ true = some f ∧
        Cond.ofSql? (f.bind "main" ["7"]).sql = some c ∧
        (c.truth labelledContent (f.bind "main" ["7"]).params
            [("main", rowOf [("database_id", .ofInt 2)])] = some true ↔
          f.admits (rowOf [("database_id", .ofInt 2)] "tenant_id").label?
            (f.ownerLabel? labelledContent (rowOf [("database_id", .ofInt 2)])) = true) := by
  have howner : ∀ link, Table.datasets.owner = some link →
      link.Refers labelledContent (rowOf [("database_id", .ofInt 2)]) := by
    intro link hlink
    obtain rfl := Option.some.inj hlink
    exact refers_labelled
  exact ⟨rfl, by decide, howner,
    clause_holds_iff_admits rfl ⟨"acme"⟩ true (by decide) ["7"] howner⟩

end Filter

end Tenancy
