import Mathlib.Data.Finset.Basic
import Tenancy.Proofs.Database.Layout

/-!
# What the migration's statements preserve

`withTenancy` and `withoutTenancy` say what a layout is like when tenancy has been brought into it,
and when it has been taken out. Both can be said of any layout, so also of the ones in between:
whatever a statement that brings tenancy in does, the layout with tenancy is the same before and
after it, and with statements of either direction so is the layout without.

`grown_altered` and `shrunk_altered` enumerate what such a statement can make of a layout. What is
needed besides is `Ready`: the names of the migration's indexes are not used for anything else, and
the registry is either not there or has all its columns.
-/

set_option autoImplicit false

namespace Tenancy.Database

/-- The index on the label of a table. -/
def labelIndex (table : String) : Index := ⟨labelIndexName table, table, [Table.labelColumn]⟩

/-- The index on a column of the registry. -/
def registryIndex (column : String) : Index :=
  ⟨registryIndexName column, Statement.registryTable, [column]⟩

/-- The indexes that the migration creates. -/
def migrationIndexes : List Index :=
  resourceTables.map labelIndex ++ indexedColumns.map registryIndex

theorem labelIndex_mem {t : String} (h : t ∈ resourceTables) : labelIndex t ∈ migrationIndexes :=
  List.mem_append_left _ (List.mem_map_of_mem h)

theorem registryIndex_mem {c : String} (h : c ∈ indexedColumns) :
    registryIndex c ∈ migrationIndexes :=
  List.mem_append_right _ (List.mem_map_of_mem h)

theorem registryTable_notMem : Statement.registryTable ∉ resourceTables := by decide

/-- No two indexes of the migration have the same name, and none is named like the registry. -/
theorem name_migrationIndexes : ∀ x ∈ migrationIndexes, x.name ≠ Statement.registryTable ∧
    ∀ y ∈ migrationIndexes, x.name = y.name → x = y := by
  decide

theorem declared_of_indexed : ∀ c ∈ indexedColumns, ∃ d ∈ registryColumns, d.name = c := by
  decide

theorem mem_columnsOf {table : String} {declared : List Declaration} {p : String × String} :
    p ∈ columnsOf table declared ↔ ∃ c ∈ declared, (table, c.name) = p := by
  rw [columnsOf, List.mem_toFinset, List.mem_map]

namespace Layout

/-- Nothing stands in the way of the migration: columns and indexes belong to tables, the names of
the migration's indexes and of the registry are free or used for these, and the registry has all its
columns if it is there. -/
structure Ready (l : Layout) : Prop where
  columns : ∀ p ∈ l.columns, p.1 ∈ l.tables
  indexes : ∀ i ∈ l.indexes, i.table ∈ l.tables ∧ ∀ c ∈ i.columns, (i.table, c) ∈ l.columns
  reserved : ∀ x ∈ migrationIndexes, x.name ∉ l.tables ∧ ∀ i ∈ l.indexes, i.name = x.name → i = x
  unnamed : ∀ i ∈ l.indexes, i.name ≠ Statement.registryTable
  complete : Statement.registryTable ∈ l.tables →
    ∀ c ∈ registryColumns, (Statement.registryTable, c.name) ∈ l.columns

/-- A layout with tenancy: every resource table that is there has a label with an index, and there is
a registry with its indexes. -/
def withTenancy (l : Layout) : Layout where
  tables := insert Statement.registryTable l.tables
  columns := l.columns ∪ (resourceTables.toFinset ∩ l.tables).image (·, Table.labelColumn) ∪
    columnsOf Statement.registryTable registryColumns
  indexes := l.indexes ∪ (resourceTables.toFinset ∩ l.tables).image labelIndex ∪
    (indexedColumns.map registryIndex).toFinset

/-- A layout without tenancy: the registry is left out with all that belongs to it, and so are the
labels of resource tables with all indexes that involve them. -/
def withoutTenancy (l : Layout) : Layout where
  tables := l.tables.erase Statement.registryTable
  columns := l.columns.filter fun p =>
    p.1 ≠ Statement.registryTable ∧ ¬(p.1 ∈ resourceTables ∧ p.2 = Table.labelColumn)
  indexes := l.indexes.filter fun i =>
    i.table ≠ Statement.registryTable ∧ ¬(i.table ∈ resourceTables ∧ Table.labelColumn ∈ i.columns)

/-! ## What one statement can do -/

/-- What a statement that brings tenancy in can make of a layout. -/
inductive Grown (l : Layout) : Layout → Prop
  | same : Grown l l
  | column {t : String} : t ∈ resourceTables → t ∈ l.tables →
      Grown l { l with columns := insert (t, Table.labelColumn) l.columns }
  | index {x : Index} : x ∈ migrationIndexes → x.table ∈ l.tables →
      (∀ c ∈ x.columns, (x.table, c) ∈ l.columns) →
      Grown l { l with indexes := insert x l.indexes }
  | registry : Statement.registryTable ∉ l.tables →
      Grown l { l with
        tables := insert Statement.registryTable l.tables
        columns := l.columns ∪ columnsOf Statement.registryTable registryColumns }

/-- What a statement that takes tenancy out can make of a layout. -/
inductive Shrunk (l : Layout) : Layout → Prop
  | same : Shrunk l l
  | registry : Shrunk l (l.dropTable Statement.registryTable)
  | index {t : String} : t ∈ resourceTables →
      Shrunk l { l with indexes := l.indexes.filter fun i => i.name ≠ labelIndexName t }
  | column {t : String} : t ∈ resourceTables → Shrunk l (l.dropColumn t Table.labelColumn)

end Layout

/-- The statements that bring tenancy in. -/
inductive Forward : Statement → Prop
  | look {t : String} : t ∈ resourceTables → Forward (.tableExists t)
  | column {t : String} : t ∈ resourceTables → Forward (.addLabelColumn t)
  | index {t : String} : t ∈ resourceTables → Forward (.createLabelIndex t)
  | registry : Forward .createRegistry
  | registryIndex {c : String} : c ∈ indexedColumns → Forward (.createRegistryIndex c)

/-- The statements that take tenancy out. -/
inductive Backward : Statement → Prop
  | registry : Backward .dropRegistry
  | look {t : String} : t ∈ resourceTables → Backward (.tableExists t)
  | index {t : String} : t ∈ resourceTables → Backward (.dropLabelIndex t)
  | column {t : String} : t ∈ resourceTables → Backward (.dropLabelColumn t)

section Statements

variable {l : Layout} {st : Statement}

theorem grown_altered (h : Forward st) : l.Grown (altered l st).2 := by
  cases h with
  | look ht => exact .same
  | @column t ht =>
    rw [snd_altered (s := .addLabelColumn t) rfl, Change.effect?]
    split
    · next htable => exact .column ht htable
    · exact .same
  | @index t ht =>
    rw [snd_altered (s := .createLabelIndex t) rfl, Change.effect?]
    split
    · next hthere =>
      rw [Option.getD_some]
      split
      · exact .same
      · exact .index (labelIndex_mem ht) hthere.1 (List.forall_mem_singleton.mpr hthere.2)
    · exact .same
  | registry =>
    rw [snd_altered (s := .createRegistry) rfl, Change.effect?, Option.getD_some]
    split
    · exact .same
    · next hfree => exact .registry fun hregistry => hfree (.inl hregistry)
  | @registryIndex c hc =>
    rw [snd_altered (s := .createRegistryIndex c) rfl, Change.effect?]
    split
    · next hthere =>
      rw [Option.getD_some]
      split
      · exact .same
      · exact .index (registryIndex_mem hc) hthere.1 (List.forall_mem_singleton.mpr hthere.2)
    · exact .same

theorem shrunk_altered (h : Backward st) : l.Shrunk (altered l st).2 := by
  cases h with
  | look ht => exact .same
  | registry =>
    rw [snd_altered (s := .dropRegistry) rfl, Change.effect?]
    split
    · exact .registry
    · split
      · exact .same
      · exact .same
  | @index t ht =>
    rw [snd_altered (s := .dropLabelIndex t) rfl, Change.effect?]
    split
    · exact .same
    · exact .index ht
  | @column t ht =>
    rw [snd_altered (s := .dropLabelColumn t) rfl, Change.effect?]
    split
    · exact .column ht
    · exact .same

end Statements

/-! ## What every statement preserves -/

namespace Layout

variable {l l' : Layout}

theorem Grown.ready (h : l.Grown l') (hl : l.Ready) : l'.Ready := by
  cases h with
  | same => exact hl
  | @column t ht htable =>
    refine ⟨?_, ?_, hl.reserved, hl.unnamed, ?_⟩
    · intro p hp
      rcases Finset.mem_insert.mp hp with rfl | hp
      · exact htable
      · exact hl.columns p hp
    · intro i hi
      exact ⟨(hl.indexes i hi).1, fun c hc => Finset.mem_insert_of_mem ((hl.indexes i hi).2 c hc)⟩
    · intro hregistry c hc
      exact Finset.mem_insert_of_mem (hl.complete hregistry c hc)
  | @index x hx htable hcolumns =>
    refine ⟨hl.columns, ?_, ?_, ?_, hl.complete⟩
    · intro i hi
      rcases Finset.mem_insert.mp hi with rfl | hi
      · exact ⟨htable, hcolumns⟩
      · exact hl.indexes i hi
    · intro y hy
      refine ⟨(hl.reserved y hy).1, ?_⟩
      intro i hi hname
      rcases Finset.mem_insert.mp hi with rfl | hi
      · exact (name_migrationIndexes i hx).2 y hy hname
      · exact (hl.reserved y hy).2 i hi hname
    · intro i hi
      rcases Finset.mem_insert.mp hi with rfl | hi
      · exact (name_migrationIndexes i hx).1
      · exact hl.unnamed i hi
  | registry hnot =>
    refine ⟨?_, ?_, ?_, hl.unnamed, ?_⟩
    · intro p hp
      rcases Finset.mem_union.mp hp with hp | hp
      · exact Finset.mem_insert_of_mem (hl.columns p hp)
      · obtain ⟨c, -, rfl⟩ := mem_columnsOf.mp hp
        exact Finset.mem_insert_self _ _
    · intro i hi
      obtain ⟨htable, hcolumns⟩ := hl.indexes i hi
      exact ⟨Finset.mem_insert_of_mem htable, fun c hc => Finset.mem_union_left _ (hcolumns c hc)⟩
    · intro x hx
      refine ⟨?_, (hl.reserved x hx).2⟩
      intro hmem
      rcases Finset.mem_insert.mp hmem with hname | hmem
      · exact (name_migrationIndexes x hx).1 hname
      · exact (hl.reserved x hx).1 hmem
    · intro _ c hc
      exact Finset.mem_union_right _ (mem_columnsOf.mpr ⟨c, hc, rfl⟩)

theorem Grown.withTenancy (h : l.Grown l') : l'.withTenancy = l.withTenancy := by
  cases h with
  | same => rfl
  | @column t ht htable =>
    have hmem : (t, Table.labelColumn) ∈ l.withTenancy.columns := by
      simp [Layout.withTenancy, ht, htable]
    have hcolumns := Finset.insert_eq_of_mem hmem
    rw [Layout.withTenancy, ← Finset.insert_union, ← Finset.insert_union] at hcolumns
    unfold Layout.withTenancy
    rw [hcolumns]
  | @index x hx htable hcolumns =>
    -- the layout with tenancy has the index anyway, as the table that it is on is there
    have hmem : x ∈ l.withTenancy.indexes := by
      rcases List.mem_append.mp hx with hx | hx
      · obtain ⟨t, ht, rfl⟩ := List.mem_map.mp hx
        have ht' : t ∈ resourceTables.toFinset ∩ l.tables :=
          Finset.mem_inter.mpr ⟨List.mem_toFinset.mpr ht, htable⟩
        exact Finset.mem_union_left _ (Finset.mem_union_right _ (Finset.mem_image_of_mem _ ht'))
      · simp [Layout.withTenancy, hx]
    have hindexes := Finset.insert_eq_of_mem hmem
    rw [Layout.withTenancy, ← Finset.insert_union, ← Finset.insert_union] at hindexes
    unfold Layout.withTenancy
    rw [hindexes]
  | registry hnot =>
    have hpresent : resourceTables.toFinset ∩ insert Statement.registryTable l.tables =
        resourceTables.toFinset ∩ l.tables := by
      refine Finset.inter_insert_of_notMem ?_
      rw [List.mem_toFinset]
      exact registryTable_notMem
    unfold Layout.withTenancy
    rw [hpresent, Finset.insert_idem, Finset.union_right_comm l.columns,
      Finset.union_right_comm (l.columns ∪ _), Finset.union_assoc _ (columnsOf _ _), Finset.union_self]

theorem Grown.withoutTenancy (h : l.Grown l') : l'.withoutTenancy = l.withoutTenancy := by
  cases h with
  | same => rfl
  | @column t ht htable =>
    unfold Layout.withoutTenancy
    rw [Finset.filter_insert, if_neg]
    exact fun hp => hp.2 ⟨ht, rfl⟩
  | @index x hx htable hcolumns =>
    unfold Layout.withoutTenancy
    rw [Finset.filter_insert, if_neg]
    rintro ⟨hregistry, hlabel⟩
    rcases List.mem_append.mp hx with hx | hx
    · obtain ⟨t, ht, rfl⟩ := List.mem_map.mp hx
      exact hlabel ⟨ht, List.mem_singleton_self _⟩
    · obtain ⟨c, -, rfl⟩ := List.mem_map.mp hx
      exact hregistry rfl
  | registry hnot =>
    unfold Layout.withoutTenancy
    have hnone : (columnsOf Statement.registryTable registryColumns).filter (fun p =>
        p.1 ≠ Statement.registryTable ∧ ¬(p.1 ∈ resourceTables ∧ p.2 = Table.labelColumn)) = ∅ := by
      refine Finset.filter_eq_empty_iff.mpr ?_
      intro p hp hkept
      obtain ⟨c, -, rfl⟩ := mem_columnsOf.mp hp
      exact hkept.1 rfl
    rw [Finset.erase_insert hnot, Finset.erase_eq_of_notMem hnot, Finset.filter_union, hnone,
      Finset.union_empty]

/-- Names that are free stay free when something is dropped. -/
theorem Ready.names_of_subset (hl : l.Ready) (l' : Layout) (htables : l'.tables ⊆ l.tables)
    (hindexes : l'.indexes ⊆ l.indexes) :
    (∀ x ∈ migrationIndexes, x.name ∉ l'.tables ∧ ∀ i ∈ l'.indexes, i.name = x.name → i = x) ∧
      ∀ i ∈ l'.indexes, i.name ≠ Statement.registryTable := by
  refine ⟨?_, fun i hi => hl.unnamed i (hindexes hi)⟩
  intro x hx
  obtain ⟨hfree, hsame⟩ := hl.reserved x hx
  exact ⟨fun hmem => hfree (htables hmem), fun i hi => hsame i (hindexes hi)⟩

theorem Shrunk.ready (h : l.Shrunk l') (hl : l.Ready) : l'.Ready := by
  cases h with
  | same => exact hl
  | registry =>
    obtain ⟨hreserved, hunnamed⟩ := hl.names_of_subset (l.dropTable Statement.registryTable)
      (Finset.erase_subset _ _) (Finset.filter_subset _ _)
    refine ⟨?_, ?_, hreserved, hunnamed, ?_⟩
    · intro p hp
      obtain ⟨hp, hne⟩ := Finset.mem_filter.mp hp
      exact Finset.mem_erase.mpr ⟨hne, hl.columns p hp⟩
    · intro i hi
      obtain ⟨hi, hne⟩ := Finset.mem_filter.mp hi
      obtain ⟨htable, hcolumns⟩ := hl.indexes i hi
      exact ⟨Finset.mem_erase.mpr ⟨hne, htable⟩,
        fun c hc => Finset.mem_filter.mpr ⟨hcolumns c hc, hne⟩⟩
    · intro hregistry
      exact absurd hregistry (Finset.notMem_erase _ _)
  | @index t ht =>
    obtain ⟨hreserved, hunnamed⟩ := hl.names_of_subset
      { l with indexes := l.indexes.filter fun i => i.name ≠ labelIndexName t }
      (Finset.Subset.refl _) (Finset.filter_subset _ _)
    refine ⟨hl.columns, ?_, hreserved, hunnamed, hl.complete⟩
    intro i hi
    exact hl.indexes i (Finset.mem_of_mem_filter i hi)
  | @column t ht =>
    obtain ⟨hreserved, hunnamed⟩ := hl.names_of_subset (l.dropColumn t Table.labelColumn)
      (Finset.Subset.refl _) (Finset.filter_subset _ _)
    refine ⟨?_, ?_, hreserved, hunnamed, ?_⟩
    · intro p hp
      exact hl.columns p (Finset.mem_of_mem_erase hp)
    · -- an index that is kept does not involve the column that is dropped
      intro i hi
      obtain ⟨hi, hother⟩ := Finset.mem_filter.mp hi
      obtain ⟨htable, hcolumns⟩ := hl.indexes i hi
      refine ⟨htable, ?_⟩
      intro c hc
      refine Finset.mem_erase.mpr ⟨?_, hcolumns c hc⟩
      intro heq
      obtain ⟨rfl, rfl⟩ := Prod.mk.inj heq
      exact hother ⟨rfl, hc⟩
    · intro hregistry c hc
      refine Finset.mem_erase.mpr ⟨?_, hl.complete hregistry c hc⟩
      intro heq
      obtain ⟨rfl, -⟩ := Prod.mk.inj heq
      exact registryTable_notMem ht

theorem Shrunk.withoutTenancy (h : l.Shrunk l') (hl : l.Ready) :
    l'.withoutTenancy = l.withoutTenancy := by
  cases h with
  | same => rfl
  | registry =>
    unfold Layout.withoutTenancy Layout.dropTable
    rw [Finset.erase_idem, Finset.filter_filter, Finset.filter_filter]
    congr 1
    · refine Finset.filter_congr fun p _ => ?_
      exact ⟨And.right, fun h => ⟨h.1, h⟩⟩
    · refine Finset.filter_congr fun i _ => ?_
      exact ⟨And.right, fun h => ⟨h.1, h⟩⟩
  | @index t ht =>
    unfold Layout.withoutTenancy
    rw [Finset.filter_filter]
    congr 1
    refine Finset.filter_congr fun i hi => ?_
    refine ⟨And.right, fun h => ⟨?_, h⟩⟩
    -- an index with this name is the one on the label, which is left out in any case
    intro hname
    have hlabel : i = labelIndex t := (hl.reserved _ (labelIndex_mem ht)).2 i hi hname
    subst hlabel
    exact h.2 ⟨ht, List.mem_singleton_self _⟩
  | @column t ht =>
    unfold Layout.withoutTenancy Layout.dropColumn
    rw [Finset.filter_filter]
    congr 1
    · refine Finset.ext fun p => ?_
      rw [Finset.mem_filter, Finset.mem_filter, Finset.mem_erase]
      refine ⟨fun h => ⟨h.1.2, h.2⟩, fun h => ⟨⟨?_, h.1⟩, h.2⟩⟩
      rintro rfl
      exact h.2.2 ⟨ht, rfl⟩
    · refine Finset.filter_congr fun i _ => ?_
      refine ⟨And.right, fun h => ⟨?_, h⟩⟩
      rintro ⟨rfl, hcolumn⟩
      exact h.2 ⟨ht, hcolumn⟩

end Layout

end Tenancy.Database
