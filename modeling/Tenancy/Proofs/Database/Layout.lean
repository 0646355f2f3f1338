import Mathlib.Data.Finset.Image
import Tenancy.Database.Migration
import Tenancy.Proofs.Database.Definition

/-!
# What the statements of the migration mean

A layout is what there is in a schema: tables, their columns, and indexes. Each statement that changes
the schema is a tree whose text is the text that is sent (`change_sql`), and what it changes is said
of the tree.

Tables and indexes share one space of names. `IF NOT EXISTS` makes a statement do nothing where the
name is taken, whoever has it, and `IF EXISTS` where nothing has it; a name of the wrong kind is
refused. To change a table, or to put an index on it, the table and the indexed column have to be
there. An index goes with its table, and with any of its columns.
-/

set_option autoImplicit false

namespace Tenancy.Database

/-! ## Trees and their texts -/

/-- A statement that changes the schema. -/
inductive Change where
  | addColumn (table column : String) (type : Declared)
  | createIndex (name table column : String)
  | createTable (table : String) (columns : List Declaration)
  | dropTable (table : String)
  | dropIndex (name : String)
  | dropColumn (table column : String)

open Sql (quoted)

def Change.sql : Change → String
  | addColumn table column type =>
    "ALTER TABLE " ++ quoted table ++ " ADD COLUMN IF NOT EXISTS " ++ quoted column ++
      (" " ++ type.sql)
  | createIndex name table column =>
    "CREATE INDEX IF NOT EXISTS " ++ quoted name ++ " ON " ++ quoted table ++ " (" ++
      quoted column ++ ")"
  | createTable table columns =>
    "\n".intercalate
      (["", "        CREATE TABLE IF NOT EXISTS " ++ quoted table ++ " ("] ++
        Declaration.lines columns ++ ["        )", "        "])
  | dropTable table => "DROP TABLE IF EXISTS " ++ quoted table
  | dropIndex name => "DROP INDEX IF EXISTS " ++ quoted name
  | dropColumn table column =>
    "ALTER TABLE " ++ quoted table ++ " DROP COLUMN IF EXISTS " ++ quoted column

/-- The name of the index on the label of a table. -/
def labelIndexName (table : String) : String := Statement.indexName table Table.labelColumn

/-- The name of the index on a column of the registry. -/
def registryIndexName (column : String) : String :=
  Statement.indexName Statement.registryTable column

/-- The tree of a statement, if it changes the schema. -/
def Statement.change? : Statement → Option Change
  | .addLabelColumn table => some (.addColumn table Table.labelColumn (.varchar 255))
  | .createLabelIndex table => some (.createIndex (labelIndexName table) table Table.labelColumn)
  | .createRegistry => some (.createTable registryTable registryColumns)
  | .createRegistryIndex column =>
    some (.createIndex (registryIndexName column) registryTable column)
  | .dropRegistry => some (.dropTable registryTable)
  | .dropLabelIndex table => some (.dropIndex (labelIndexName table))
  | .dropLabelColumn table => some (.dropColumn table Table.labelColumn)
  | _ => none

/-- **What is sent is the text of the tree.** -/
theorem change_sql {s : Statement} {c : Change} (h : s.change? = some c) : c.sql = s.sql := by
  cases s with
  | addLabelColumn table =>
    cases h
    have htype : " " ++ (Declared.varchar 255).sql = " VARCHAR(255)" := by decide
    exact congrArg (_ ++ ·) htype
  | createLabelIndex table =>
    cases h
    rfl
  | createRegistry =>
    cases h
    exact congrArg ("\n".intercalate ·) createRegistryLines_eq.symm
  | createRegistryIndex column =>
    cases h
    rfl
  | dropRegistry =>
    cases h
    rfl
  | dropLabelIndex table =>
    cases h
    rfl
  | dropLabelColumn table =>
    cases h
    rfl
  | _ => cases h

/-! ## Layouts -/

/-- An index: its name, its table, and the columns that it involves. -/
structure Index where
  name : String
  table : String
  columns : List String
  deriving DecidableEq

/-- What there is in a schema. -/
@[ext]
structure Layout where
  tables : Finset String
  columns : Finset (String × String)
  indexes : Finset Index
  deriving DecidableEq

/-- The columns of a table that is declared. -/
def columnsOf (table : String) (declared : List Declaration) : Finset (String × String) :=
  (declared.map fun c => (table, c.name)).toFinset

namespace Layout

/-- A table or an index has a name. -/
def Taken (l : Layout) (name : String) : Prop :=
  name ∈ l.tables ∨ ∃ i ∈ l.indexes, i.name = name

instance (l : Layout) (name : String) : Decidable (l.Taken name) :=
  inferInstanceAs (Decidable (_ ∨ _))

/-- A layout without a table, its columns and its indexes. -/
def dropTable (l : Layout) (table : String) : Layout where
  tables := l.tables.erase table
  columns := l.columns.filter fun p => p.1 ≠ table
  indexes := l.indexes.filter fun i => i.table ≠ table

/-- A layout without a column and the indexes that involve it. -/
def dropColumn (l : Layout) (table column : String) : Layout where
  tables := l.tables
  columns := l.columns.erase (table, column)
  indexes := l.indexes.filter fun i => ¬(i.table = table ∧ column ∈ i.columns)

end Layout

/-- What a change makes of a layout, unless it is refused. -/
def Change.effect? (l : Layout) : Change → Option Layout
  | addColumn table column _ =>
    if table ∈ l.tables then some { l with columns := insert (table, column) l.columns } else none
  | createIndex name table column =>
    if table ∈ l.tables ∧ (table, column) ∈ l.columns then
      some (if l.Taken name then l
        else { l with indexes := insert ⟨name, table, [column]⟩ l.indexes })
    else none
  | createTable table columns =>
    some (if l.Taken table then l
      else { l with
        tables := insert table l.tables
        columns := l.columns ∪ columnsOf table columns })
  | dropTable table =>
    if table ∈ l.tables then some (l.dropTable table)
    else if l.Taken table then none
    else some l
  | dropIndex name =>
    if name ∈ l.tables then none
    else some { l with indexes := l.indexes.filter fun i => i.name ≠ name }
  | dropColumn table column =>
    if table ∈ l.tables then some (l.dropColumn table column) else none

/-- A database that does to its layout what statements say, and tells which tables there are. -/
def altered (l : Layout) (s : Statement) : Reply × Layout :=
  match s.change? with
  | some c =>
    match c.effect? l with
    | some l' => (.ok .empty, l')
    | none => (.error (.refused "no such table or column, or a name of another kind"), l)
  | none =>
    match s with
    | .tableExists table => (.ok ⟨[⟨"exists", .bool⟩], [[.bool (table ∈ l.tables)]]⟩, l)
    | _ => (.ok .empty, l)

theorem altered_eq_ok {l l' : Layout} {s : Statement} {c : Change} (hc : s.change? = some c)
    (h : c.effect? l = some l') : altered l s = (.ok .empty, l') := by
  unfold altered
  rw [hc]
  simp only [h]

/-- A change that is refused leaves the layout as it is. -/
theorem snd_altered {l : Layout} {s : Statement} {c : Change} (h : s.change? = some c) :
    (altered l s).2 = (c.effect? l).getD l := by
  unfold altered
  rw [h]
  cases hc : c.effect? l with
  | none => simp only [hc, Option.getD_none]
  | some l' => simp only [hc, Option.getD_some]

end Tenancy.Database
