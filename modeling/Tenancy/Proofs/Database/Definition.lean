import Tenancy.Database.Columns

/-!
# How the registry's table is defined

The statement that creates the registry is text. `registryColumns` is the same definition as a list
of columns, and `createRegistryLines_eq` says that the text is written from it. So what the table can
hold, and which objects come and go with it, is read off the list.
-/

set_option autoImplicit false

namespace Tenancy.Database

/-- A value in a statement: a parameter by its place, a truth value, or the current moment. -/
inductive Operand where
  | param (index : Nat)
  | truth (value : Bool)
  | now
  deriving DecidableEq, Repr

namespace Operand

/-- The first parameter has the number one. -/
def sql : Operand → String
  | param index => "$" ++ toString (index + 1)
  | truth true => "TRUE"
  | truth false => "FALSE"
  | now => "NOW()"

/-- The value, unless there is no such parameter. -/
def value? (params : List Cell) (moment : Instant) : Operand → Option Cell
  | param index => params[index]?
  | truth value => some (.bool value)
  | now => some (.time moment)

end Operand

/-- The type with which a column is declared. -/
inductive Declared where
  | serial
  | varchar (length : Nat)
  | text
  | boolean
  | jsonb
  | timestamptz
  | bigint
  deriving DecidableEq, Repr

namespace Declared

def sql : Declared → String
  | serial => "SERIAL"
  | varchar length => "VARCHAR(" ++ toString length ++ ")"
  | text => "TEXT"
  | boolean => "BOOLEAN"
  | jsonb => "JSONB"
  | timestamptz => "TIMESTAMPTZ"
  | bigint => "BIGINT"

/-- The type that replies give for such a column, if they can have one. -/
def columnType? : Declared → Option ColumnType
  | serial => none
  | varchar _ => some .text
  | text => some .text
  | boolean => some .bool
  | jsonb => some .jsonb
  | timestamptz => some .timestamptz
  | bigint => some .int8

end Declared

/-- Whether a column tells rows apart. -/
inductive Key where
  | none
  | unique
  | primary
  deriving DecidableEq, Repr

/-- A column of a table as it is declared. -/
structure Declaration where
  name : String
  type : Declared
  notNull : Bool
  key : Key
  default? : Option Operand
  deriving DecidableEq, Repr

/-- A column as it is written in the statement that creates its table. -/
def Declaration.sql (c : Declaration) : String :=
  c.name ++ " " ++ c.type.sql ++ (if c.notNull then " NOT NULL" else "") ++
    (match c.key with
      | .none => ""
      | .unique => " UNIQUE"
      | .primary => " PRIMARY KEY") ++
    c.default?.elim "" fun o => " DEFAULT " ++ o.sql

/-- The lines of the columns, with a comma between two of them. -/
def Declaration.lines : List Declaration → List String
  | [] => []
  | [c] => ["            " ++ c.sql]
  | c :: cs => ("            " ++ c.sql ++ ",") :: lines cs

/-- The columns of the registry's table. -/
def registryColumns : List Declaration :=
  [⟨"id", .serial, false, .primary, none⟩,
    ⟨"tenant_id", .varchar 255, true, .unique, none⟩,
    ⟨"tenant_name", .varchar 255, true, .none, none⟩,
    ⟨"description", .text, false, .none, none⟩,
    ⟨"is_active", .boolean, true, .none, some (.truth true)⟩,
    ⟨"database_schema", .varchar 255, false, .none, none⟩,
    ⟨"configuration", .jsonb, false, .none, none⟩,
    ⟨"created_on", .timestamptz, true, .none, some .now⟩,
    ⟨"changed_on", .timestamptz, true, .none, some .now⟩,
    ⟨"created_by_fk", .bigint, false, .none, none⟩,
    ⟨"changed_by_fk", .bigint, false, .none, none⟩]

theorem createRegistryLines_eq :
    Statement.createRegistryLines =
      ["", "        CREATE TABLE IF NOT EXISTS " ++ Sql.quoted Statement.registryTable ++ " ("] ++
        Declaration.lines registryColumns ++ ["        )", "        "] := by
  decide

end Tenancy.Database
