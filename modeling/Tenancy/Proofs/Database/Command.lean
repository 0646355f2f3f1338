import Mathlib.Data.Option.Basic
import Tenancy.Proofs.Database.Definition

/-!
# What the statements of the registry mean

Each statement about the registry's table is a tree whose text is the text that is sent
(`command_sql`). A tree is executed on the contents of the database, and all it is given besides are
the parameters by their places: a value that is bound in a wrong place ends up in a wrong column
here, too.

Comparing with a null is never true. Rows that would break what the table's columns ask for are
refused as a whole, unless the statement says that it gives way to a row with the same key. How texts
are put in order is up to the database. Serial numbers are left out: no statement mentions them.
-/

set_option autoImplicit false

namespace Tenancy.Database

/-! ## Trees and their texts -/

/-- Which rows a statement is about. -/
inductive Condition where
  | flag (column : String)
  | equals (column : String) (operand : Operand)
  deriving Repr

def Condition.sql : Condition → String
  | flag column => column
  | equals column operand => column ++ " = " ++ operand.sql

/-- A statement about the rows of one table. -/
inductive Command where
  | select (columns : List String) (table : String) (condition : Option Condition)
      (order : Option String)
  /-- A new row, unless there is one with the same key. -/
  | insert (table : String) (values : List (String × Operand)) (key : String)
      (columns : List String)
  | update (table : String) (values : List (String × Operand)) (condition : Condition)
      (columns : List String)
  deriving Repr

namespace Command

/-- Names or values as they are listed. -/
def listed (parts : List String) : String := ", ".intercalate parts

def sql : Command → String
  | select columns table condition order =>
    "SELECT " ++ listed columns ++ " FROM " ++ table ++
      condition.elim "" (fun c => " WHERE " ++ c.sql) ++
      order.elim "" fun column => " ORDER BY " ++ column
  | insert table values key columns =>
    "INSERT INTO " ++ table ++ " (" ++ listed (values.map Prod.fst) ++ ") VALUES (" ++
      listed (values.map fun v => v.2.sql) ++ ") ON CONFLICT (" ++ key ++
      ") DO NOTHING RETURNING " ++ listed columns
  | update table values condition columns =>
    "UPDATE " ++ table ++ " SET " ++ listed (values.map fun v => v.1 ++ " = " ++ v.2.sql) ++
      " WHERE " ++ condition.sql ++ " RETURNING " ++ listed columns

/-- The table that a statement is about. -/
def table : Command → String
  | select _ table _ _ => table
  | insert table _ _ _ => table
  | update table _ _ _ => table

end Command

/-- The tree of a statement, if it is about the registry's table. -/
def Statement.command? : Statement → Option Command
  | .recordById _ =>
    some (.select Registry.Record.fieldNames registryTable (some (.equals "tenant_id" (.param 0)))
      none)
  | .records activeOnly =>
    some (.select Registry.Record.fieldNames registryTable
      (if activeOnly then some (.flag "is_active") else none) (some "tenant_id"))
  | .insertRecord .. =>
    some (.insert registryTable
      [("tenant_id", .param 0), ("tenant_name", .param 1), ("description", .param 2),
        ("is_active", .truth true), ("database_schema", .param 3), ("configuration", .param 4),
        ("created_on", .now), ("changed_on", .now), ("created_by_fk", .param 5),
        ("changed_by_fk", .param 5)]
      "tenant_id" Registry.Record.fieldNames)
  | .deactivateRecord .. =>
    some (.update registryTable
      [("is_active", .truth false), ("changed_on", .now), ("changed_by_fk", .param 1)]
      (.equals "tenant_id" (.param 0)) Registry.Record.fieldNames)
  | .activeFlag _ =>
    some (.select ["is_active"] registryTable (some (.equals "tenant_id" (.param 0))) none)
  | _ => none

/-- **What is sent is the text of the tree.** The text has no values in it, so it is compared for one
choice of them. -/
theorem command_sql {s : Statement} {c : Command} (h : s.command? = some c) : c.sql = s.sql := by
  cases s with
  | recordById id =>
    cases h
    show _ = (Statement.recordById "").sql
    decide +kernel
  | records activeOnly =>
    cases h
    cases activeOnly <;> decide +kernel
  | insertRecord t schema actor =>
    cases h
    show _ = (Statement.insertRecord (.named "" "") "" none).sql
    decide +kernel
  | deactivateRecord id actor =>
    cases h
    show _ = (Statement.deactivateRecord "" none).sql
    decide +kernel
  | activeFlag id =>
    cases h
    show _ = (Statement.activeFlag "").sql
    decide +kernel
  | _ => cases h

/-! ## Contents -/

/-- A row of a table: its cells, each with the name of its column. -/
abbrev NamedCells := List (String × Cell)

def NamedCells.cell (r : NamedCells) (column : String) : Cell := (r.lookup column).getD .null

/-- Two cells hold the same value. Nothing is the same as a null. -/
def Cell.same : Cell → Cell → Bool
  | .text a, .text b => a == b
  | .bool a, .bool b => a == b
  | .int a, .int b => a == b
  | .time a, .time b => a == b
  | _, _ => false

def Cell.isNull : Cell → Bool
  | .null => true
  | _ => false

/-- A table: how its columns are declared, and its rows. -/
structure Stored where
  declared : List Declaration
  rows : List NamedCells

/-- The tables of a database, by their names. -/
abbrev Tables := String → Option Stored

namespace Tables

/-- The tables with another one in place of one of them. -/
def set (db : Tables) (name : String) (t : Stored) : Tables := fun other =>
  if other = name then some t else db other

theorem set_self (db : Tables) (name : String) (t : Stored) : db.set name t name = some t :=
  if_pos rfl

theorem set_set (db : Tables) (name : String) (t t' : Stored) :
    (db.set name t).set name t' = db.set name t' := by
  funext other
  unfold set
  by_cases h : other = name
  · rw [if_pos h, if_pos h]
  · rw [if_neg h, if_neg h, if_neg h]

end Tables

/-- What the declarations of columns ask of the rows. -/
def Allows (declared : List Declaration) (rows : List NamedCells) : Prop :=
  ∀ c ∈ declared, (c.notNull = true → ∀ r ∈ rows, (r.cell c.name).isNull = false) ∧
    (c.key = .unique → rows.Pairwise fun r s => (r.cell c.name).same (s.cell c.name) = false)

instance (declared : List Declaration) (rows : List NamedCells) : Decidable (Allows declared rows) :=
  inferInstanceAs (Decidable (∀ c ∈ declared, _ ∧ _))

/-! ## Execution -/

/-- What a database brings to a statement: the moment, and how it compares texts. -/
structure Setting where
  now : Instant
  le : Cell → Cell → Bool

section Execution

variable (setting : Setting) (params : List Cell)

/-- Whether a condition is true of a row. -/
def Condition.holds (r : NamedCells) : Condition → Bool
  | flag column => (r.cell column).same (.bool true)
  | equals column operand =>
    (operand.value? params setting.now).any fun c => (r.cell column).same c

/-- Whether the values that a condition compares with are there. -/
def Condition.isBound : Condition → Bool
  | flag _ => true
  | equals _ operand => (operand.value? params setting.now).isSome

def Condition.column : Condition → String
  | flag column => column
  | equals column _ => column

/-- The cells that values come to. -/
def evaluated? (values : List (String × Operand)) : Option NamedCells :=
  values.mapM fun v => (v.2.value? params setting.now).map fun c => (v.1, c)

/-- A new row: what is given for a column, or its default. -/
def newRow (declared : List Declaration) (given : NamedCells) : NamedCells :=
  (declared.filter fun c => c.type != .serial).map fun c =>
    (c.name, (given.lookup c.name).getD ((c.default?.bind (·.value? [] setting.now)).getD .null))

/-- A row with new values in some of its columns. -/
def NamedCells.assign (r given : NamedCells) : NamedCells :=
  r.map fun p => (p.1, (given.lookup p.1).getD p.2)

/-- Some columns of rows as a reply; there are none of columns that are not declared. -/
def Stored.reply? (t : Stored) (columns : List String) (rows : List NamedCells) : Option RowSet := do
  let cs ← columns.mapM fun name => do
    let c ← t.declared.find? fun c => c.name == name
    return Column.mk name (← c.type.columnType?)
  return ⟨cs, rows.map fun r => columns.map r.cell⟩

/-- Whether a column is declared. -/
def Stored.knows (t : Stored) (column : String) : Bool :=
  t.declared.any fun c => c.name == column

/-- Whether a column is declared as a key. -/
def Stored.hasKey (t : Stored) (column : String) : Bool :=
  t.declared.any fun c => c.name == column && c.key == .unique

/-- The rows of a selection, in the order of a column if there is one. -/
def selectedRows (t : Stored) (condition : Option Condition) (order : Option String) :
    List NamedCells :=
  let rows := t.rows.filter fun r => condition.all (Condition.holds setting params r)
  order.elim rows fun column => rows.mergeSort fun r s => setting.le (r.cell column) (s.cell column)

/-- What a statement answers, and the rows behind it; nothing if it cannot be executed. -/
def Command.execute? (t : Stored) : Command → Option (RowSet × List NamedCells)
  | select columns _ condition order => do
    guard (condition.all fun c => t.knows c.column && c.isBound setting params)
    guard (order.all t.knows)
    return (← t.reply? columns (selectedRows setting params t condition order), t.rows)
  | insert _ values key columns => do
    guard (values.all fun v => t.knows v.1)
    guard (t.hasKey key)
    let r := newRow setting t.declared (← evaluated? setting params values)
    if t.rows.any fun s => (s.cell key).same (r.cell key) then
      return (← t.reply? columns [], t.rows)
    else
      guard (Allows t.declared (t.rows ++ [r]))
      return (← t.reply? columns [r], t.rows ++ [r])
  | update _ values condition columns => do
    guard (values.all fun v => t.knows v.1)
    guard (t.knows condition.column && condition.isBound setting params)
    let given ← evaluated? setting params values
    let rows := t.rows.map fun r =>
      if condition.holds setting params r then r.assign given else r
    guard (Allows t.declared rows)
    let changed := t.rows.filter (condition.holds setting params)
    return (← t.reply? columns (changed.map fun r => r.assign given), rows)

/-! What a statement comes to that can be executed: one equation for each way it can go. -/

variable {t : Stored} {columns : List String} {table key : String} {values : List (String × Operand)}
  {given : NamedCells}

theorem guard_of {p : Prop} [Decidable p] (h : p) : (guard p : Option Unit) = some () :=
  (Option.guard_eq_some' ()).mpr h

theorem execute?_select {condition : Option Condition} {order : Option String}
    (hcondition : (condition.all fun c => t.knows c.column && c.isBound setting params) = true)
    (horder : order.all t.knows = true) :
    (Command.select columns table condition order).execute? setting params t =
      (t.reply? columns (selectedRows setting params t condition order)).map fun reply =>
        (reply, t.rows) := by
  rw [Command.execute?, guard_of hcondition, guard_of horder, Option.map_eq_bind]
  rfl

theorem execute?_insert_taken (hknown : (values.all fun v => t.knows v.1) = true)
    (hkey : t.hasKey key = true) (hgiven : evaluated? setting params values = some given)
    (htaken : (t.rows.any fun s =>
      (s.cell key).same ((newRow setting t.declared given).cell key)) = true) :
    (Command.insert table values key columns).execute? setting params t =
      (t.reply? columns []).map fun reply => (reply, t.rows) := by
  rw [Command.execute?, guard_of hknown, guard_of hkey, hgiven, Option.map_eq_bind]
  exact if_pos htaken

theorem execute?_insert_new (hknown : (values.all fun v => t.knows v.1) = true)
    (hkey : t.hasKey key = true) (hgiven : evaluated? setting params values = some given)
    (hfree : (t.rows.any fun s =>
      (s.cell key).same ((newRow setting t.declared given).cell key)) = false)
    (hallows : Allows t.declared (t.rows ++ [newRow setting t.declared given])) :
    (Command.insert table values key columns).execute? setting params t =
      (t.reply? columns [newRow setting t.declared given]).map fun reply =>
        (reply, t.rows ++ [newRow setting t.declared given]) := by
  rw [Command.execute?, guard_of hknown, guard_of hkey, hgiven, Option.map_eq_bind]
  refine (if_neg (Bool.eq_false_iff.mp hfree)).trans ?_
  rw [guard_of hallows]
  rfl

theorem execute?_update {condition : Condition}
    (hknown : (values.all fun v => t.knows v.1) = true)
    (hcondition : (t.knows condition.column && condition.isBound setting params) = true)
    (hgiven : evaluated? setting params values = some given)
    (hallows : Allows t.declared (t.rows.map fun r =>
      if condition.holds setting params r then r.assign given else r)) :
    (Command.update table values condition columns).execute? setting params t =
      (t.reply? columns ((t.rows.filter (condition.holds setting params)).map fun r =>
        r.assign given)).map fun reply =>
          (reply, t.rows.map fun r =>
            if condition.holds setting params r then r.assign given else r) := by
  rw [Command.execute?, guard_of hknown, guard_of hcondition, hgiven, Option.map_eq_bind]
  show ((guard (Allows t.declared _) : Option Unit) >>= _) = _
  rw [guard_of hallows]
  rfl

end Execution

/-- A database that does what statements about the registry mean. It has nothing to say to others. -/
def performed (setting : Setting) (db : Tables) (s : Statement) : Reply × Tables :=
  match s.command? with
  | none => (.ok .empty, db)
  | some c =>
    match (db c.table).bind fun t => (c.execute? setting s.params t).map fun x => (t.declared, x) with
    | none => (.error (.refused "no such table, column or value, or a row that is not admitted"), db)
    | some (declared, reply, rows) =>
      (.ok reply, db.set c.table ⟨declared, rows⟩)

end Tenancy.Database
