import Tenancy.Filter
import Tenancy.Registry.Record

/-!
# What the database is told

Every statement that the library sends is one of the following, and its text and parameters are
functions of it. So what a statement means can be said of the statement, and not of its text.

Reading statements name the columns of a registry record in the order of its fields. The statements
that change the schema may all be repeated: they ask for a thing to be there, or to be gone.
-/

set_option autoImplicit false

namespace Tenancy.Database

open Registry

/-- A value that is sent to the database or comes from it. -/
inductive Cell where
  | null
  | text (value : String)
  | bool (value : Bool)
  | int (value : Int)
  | json (value : Json)
  | time (value : Instant)
  deriving Repr, BEq

/-- A value that may be missing. -/
def Cell.ofOption {α : Type} (f : α → Cell) : Option α → Cell
  | some a => f a
  | none => .null

/-- A statement. -/
inductive Statement where
  /-- The rows of a table, filtered and limited. -/
  | listRows (table : Table) (filter : Option Filter) (limit : Option Nat)
  /-- The row of a table with an id. -/
  | rowById (table : Table) (id : String)
  /-- The record of a tenant. -/
  | recordById (id : String)
  /-- All records, or those of active tenants. -/
  | records (activeOnly : Bool)
  /-- A new record, unless there is one with its id; the record if it is new. -/
  | insertRecord (tenant : NewTenant) (schema : String) (actor : Option Int)
  /-- A record marked as inactive; the record if there is one. -/
  | deactivateRecord (id : String) (actor : Option Int)
  /-- Whether the record of a tenant is active. -/
  | activeFlag (id : String)
  /-- Nothing but an answer. -/
  | ping
  /-- Whether a table exists. -/
  | tableExists (table : String)
  | addLabelColumn (table : String)
  | createLabelIndex (table : String)
  | createRegistry
  | createRegistryIndex (column : String)
  | dropRegistry
  | dropLabelIndex (table : String)
  | dropLabelColumn (table : String)
  deriving Repr

namespace Statement

/-- The table of the registry. -/
def registryTable : String := "tenant_registry"

/-- The columns of a record. -/
def recordColumns : String := ", ".intercalate Record.fieldNames

/-- The name of the index on a column of a table. -/
def indexName (table column : String) : String := "ix_" ++ table ++ "_" ++ column

/-- The lines that create the registry's table. -/
def createRegistryLines : List String :=
  ["", "        CREATE TABLE IF NOT EXISTS " ++ Sql.quoted registryTable ++ " (",
    "            id SERIAL PRIMARY KEY,",
    "            tenant_id VARCHAR(255) NOT NULL UNIQUE,",
    "            tenant_name VARCHAR(255) NOT NULL,",
    "            description TEXT,",
    "            is_active BOOLEAN NOT NULL DEFAULT TRUE,",
    "            database_schema VARCHAR(255),",
    "            configuration JSONB,",
    "            created_on TIMESTAMPTZ NOT NULL DEFAULT NOW(),",
    "            changed_on TIMESTAMPTZ NOT NULL DEFAULT NOW(),",
    "            created_by_fk BIGINT,",
    "            changed_by_fk BIGINT",
    "        )",
    "        "]

/-- An index on a column. -/
def createIndex (table column : String) : String :=
  "CREATE INDEX IF NOT EXISTS " ++ Sql.quoted (indexName table column) ++ " ON " ++
    Sql.quoted table ++ " (" ++ Sql.quoted column ++ ")"

/-- The text of a statement. -/
def sql : Statement → String
  | listRows table filter limit => (Sql.selectRows table filter limit).sql
  | rowById table id => (Sql.selectById table id).sql
  | recordById _ =>
    "SELECT " ++ recordColumns ++ " FROM " ++ registryTable ++ " WHERE tenant_id = $1"
  | records activeOnly =>
    "SELECT " ++ recordColumns ++ " FROM " ++ registryTable ++
      (if activeOnly then " WHERE is_active" else "") ++ " ORDER BY tenant_id"
  | insertRecord .. =>
    "INSERT INTO " ++ registryTable ++ " (" ++ recordColumns ++ ") " ++
      "VALUES ($1, $2, $3, TRUE, $4, $5, NOW(), NOW(), $6, $6) " ++
      "ON CONFLICT (tenant_id) DO NOTHING RETURNING " ++ recordColumns
  | deactivateRecord .. =>
    "UPDATE " ++ registryTable ++
      " SET is_active = FALSE, changed_on = NOW(), changed_by_fk = $2 " ++
      "WHERE tenant_id = $1 RETURNING " ++ recordColumns
  | activeFlag _ => "SELECT is_active FROM " ++ registryTable ++ " WHERE tenant_id = $1"
  | ping => "SELECT 1"
  | tableExists _ =>
    "SELECT EXISTS(SELECT 1 FROM information_schema.tables WHERE " ++
      "table_schema = current_schema() AND table_name = $1)"
  | addLabelColumn table =>
    "ALTER TABLE " ++ Sql.quoted table ++ " ADD COLUMN IF NOT EXISTS " ++
      Sql.quoted Table.labelColumn ++ " VARCHAR(255)"
  | createLabelIndex table => createIndex table Table.labelColumn
  | createRegistry => "\n".intercalate createRegistryLines
  | createRegistryIndex column => createIndex registryTable column
  | dropRegistry => "DROP TABLE IF EXISTS " ++ Sql.quoted registryTable
  | dropLabelIndex table =>
    "DROP INDEX IF EXISTS " ++ Sql.quoted (indexName table Table.labelColumn)
  | dropLabelColumn table =>
    "ALTER TABLE " ++ Sql.quoted table ++ " DROP COLUMN IF EXISTS " ++ Sql.quoted Table.labelColumn

/-- The values of a statement's parameters. -/
def params : Statement → List Cell
  | listRows table filter limit => (Sql.selectRows table filter limit).params.map .text
  | rowById table id => (Sql.selectById table id).params.map .text
  | recordById id => [.text id]
  | insertRecord tenant schema actor =>
    [.text tenant.tenantId, .text tenant.name, .ofOption .text tenant.description, .text schema,
      .ofOption .json tenant.configuration, .ofOption .int actor]
  | deactivateRecord id actor => [.text id, .ofOption .int actor]
  | activeFlag id => [.text id]
  | tableExists table => [.text table]
  | _ => []

end Statement

end Tenancy.Database
