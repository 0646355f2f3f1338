import Tenancy.Database.Columns

/-!
# Bringing tenancy into a database, and taking it out

Applying adds a label column and an index to every resource table that exists, and creates the
registry with its indexes; reverting drops all of it. Tables that do not exist are passed over.
Every statement may be repeated, so a migration that was cut off is completed by running it again.
-/

set_option autoImplicit false

namespace Tenancy.Database

/-- Whether a table exists. -/
def tableExists (table : String) : Program Bool := do
  match ← Program.read ((← Program.query (.tableExists table)).first? .bool) with
  | some answer => return answer
  | none => throw (.database .rowNotFound)

/-- The names of the resource tables. -/
def resourceTables : List String := Table.all.map Table.table

/-- Adds label and index to a table, if it exists. -/
def labelTable (table : String) : Program Unit := do
  if ← tableExists table then
    Program.execute (.addLabelColumn table)
    Program.execute (.createLabelIndex table)
    note (.labelColumnReady table)
  else
    note (.tableMissing table)

/-- Drops index and label of a table; an index can be dropped without its table. -/
def unlabelTable (table : String) : Program Unit := do
  Program.execute (.dropLabelIndex table)
  if ← tableExists table then
    Program.execute (.dropLabelColumn table)

/-- One program after the other, for every table. -/
def forTables (step : String → Program Unit) : List String → Program Unit
  | [] => pure ()
  | t :: rest => do
    step t
    forTables step rest

/-- The columns of the registry that have indexes. -/
def indexedColumns : List String := ["tenant_id", "is_active"]

/-- Brings tenancy into the database. -/
def applyMigration : Program Unit := do
  forTables labelTable resourceTables
  Program.execute .createRegistry
  forTables (fun column => Program.execute (.createRegistryIndex column)) indexedColumns

/-- Takes tenancy out of the database. -/
def revertMigration : Program Unit := do
  Program.execute .dropRegistry
  forTables unlabelTable resourceTables

end Tenancy.Database
