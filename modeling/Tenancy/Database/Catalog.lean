import Tenancy.Catalog
import Tenancy.Database.Columns

/-!
# The catalog in the database

Rows come as JSON, one column a row. A listing is one statement, with the filter in its condition; a
row by its id is one statement more if the table has owners and the row names one, and the owner is
then read from the table of databases. A row whose owner is not found is answered without.
-/

set_option autoImplicit false

namespace Tenancy.Database

/-- The rows of the reply to a statement of the catalog, which is logged first. -/
def fetchRows (s : Statement) (q : Sql.Query) : Program (List Json) := do
  note (.queried q.sql q.params)
  let rs ← Program.query s
  Program.read (rs.rows.mapM (firstColumn .json rs.columns))

/-- The rows of a table that pass a filter. -/
def listRows (table : Table) (filter : Option Filter) : Program (List OwnedRow) := do
  let rows ← fetchRows (.listRows table filter (some listLimit))
    (Sql.selectRows table filter (some listLimit))
  return rows.map fun data => .free (.ofColumns table data)

/-- The row of a table with an id, by itself. -/
def fetchRow (table : Table) (id : String) : Program (Option Row) := do
  let rows ← fetchRows (.rowById table id) (Sql.selectById table id)
  return rows.head?.map (Row.ofColumns table)

/-- The id of what a row belongs to. -/
def ownerId? (table : Table) (r : Row) : Option String :=
  table.owner.bind fun link => (r.data.member? link.foreignKey).bind Json.plainText?

/-- The row of a table with an id, and the database it belongs to. -/
def getRow (table : Table) (id : String) : Program (Option OwnedRow) := do
  match ← fetchRow table id with
  | none => return none
  | some r =>
    match ownerId? table r with
    | none => return some (.free r)
    | some owner =>
      match ← fetchRow Table.databases owner with
      | none => return some (.free r)
      | some o => return some (.under r (.free o))

/-- The catalog in the database. -/
def catalog : Catalog Program := ⟨listRows, getRow⟩

end Tenancy.Database
