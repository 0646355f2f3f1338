import Tenancy.Database.Columns
import Tenancy.Registry
import Tenancy.Schema.SearchPath

/-!
# The registry in the database

Every operation is one statement. Registering relies on the table's unique ids: a statement that
returns no record has found the id taken. A tenant is stored with the name of its schema, its own id
where none is given.
-/

set_option autoImplicit false

namespace Tenancy.Database

open Registry

/-- The record of an id. -/
def getRecord (id : String) : Program (Option Record) := do
  Program.read (← Program.query (.recordById id)).record?

/-- All records, or those of active tenants. -/
def listRecords (activeOnly : Bool) : Program (List Record) := do
  Program.read (← Program.query (.records activeOnly)).records

/-- Registers a tenant. -/
def createRecord (t : NewTenant) (actor : Option Int) : Program Record := do
  match t.check with
  | .error e => throw e
  | .ok () => pure ()
  let schema := Schema.ofTenant ⟨t.tenantId⟩ t.databaseSchema
  match ← Program.read (← Program.query (.insertRecord t schema actor)).record? with
  | none => throw (.tenantExists t.tenantId)
  | some r =>
    note (.tenantRegistered r.tenantId schema)
    return r

/-- Deactivates a tenant. -/
def deactivateRecord (id : String) (actor : Option Int) : Program Record := do
  match ← Program.read (← Program.query (.deactivateRecord id actor)).record? with
  | none => throw (.tenantNotFound id)
  | some r =>
    note (.tenantDeactivated ⟨id⟩)
    return r

/-- Whether a tenant is registered and active. -/
def isActive (id : String) : Program Bool := do
  let flag ← Program.read ((← Program.query (.activeFlag id)).first? .bool)
  return flag.getD false

/-- The registry in the database. -/
def registry : Registry Program where
  get? := getRecord
  list := listRecords
  create := createRecord
  deactivate := deactivateRecord
  isActive := isActive
  ping := Program.execute .ping

end Tenancy.Database
