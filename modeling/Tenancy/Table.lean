import Tenancy.Kind

/-!
# Resource tables

Where the resources of a kind are stored: the table, its id column, the column that carries the
tenant's label if it carries one, and the foreign key to the database that its rows belong to if
they belong to one.
-/

set_option autoImplicit false

namespace Tenancy

/-- A foreign key to the table of owners. -/
structure OwnerLink where
  foreignKey : String
  table : String
  idColumn : String
  tenantColumn : String
  deriving DecidableEq, Repr

/-- The storage of one kind of resource. -/
structure Table where
  kind : Kind
  table : String
  idColumn : String
  tenantColumn : Option String
  owner : Option OwnerLink
  deriving DecidableEq, Repr

namespace Table

/-- The column that carries labels. -/
def labelColumn : String := "tenant_id"

/-- The link of data sources to their databases. -/
def databaseLink : OwnerLink := ⟨"database_id", "dbs", "id", labelColumn⟩

/-- The table of databases. -/
def databases : Table := ⟨.database, "dbs", "id", some labelColumn, none⟩

/-- The table of data sources, each of which belongs to a database. -/
def datasets : Table := ⟨.datasource, "tables", "id", some labelColumn, some databaseLink⟩

/-- The table of dashboards. -/
def dashboards : Table := ⟨.dashboard, "dashboards", "id", some labelColumn, none⟩

/-- The table of charts. -/
def charts : Table := ⟨.chart, "slices", "id", some labelColumn, none⟩

/-- The table of saved queries. -/
def savedQueries : Table := ⟨.savedQuery, "saved_query", "id", some labelColumn, none⟩

/-- The tables of all kinds. -/
def all : List Table := [databases, datasets, dashboards, charts, savedQueries]

/-- The table of a kind. -/
def ofKind : Kind → Table
  | .database => databases
  | .datasource => datasets
  | .dashboard => dashboards
  | .chart => charts
  | .savedQuery => savedQueries

end Table

end Tenancy
