import Tenancy.Registry.Record

/-!
# The registry in memory

A directory holds the records of all tenants ever registered, in the order of their ids. Registering
adds a record and deactivating marks one; nothing is ever removed, and an operation that fails
changes nothing.
-/

set_option autoImplicit false

namespace Tenancy.Registry

/-- The registered tenants, in the order of their ids. -/
structure Directory where
  records : List Record
  deriving Repr

namespace Directory

/-- No tenants. -/
def empty : Directory := ⟨[]⟩

/-- The record of an id. -/
def get? (d : Directory) (id : String) : Option Record :=
  d.records.find? fun r => r.tenantId.text == id

/-- All records, or those of active tenants. -/
def list (d : Directory) (activeOnly : Bool) : List Record :=
  d.records.filter fun r => !activeOnly || r.isActive

/-- A record put into its place in the order. -/
def place (r : Record) : List Record → List Record
  | [] => [r]
  | s :: rest => if r.tenantId.text < s.tenantId.text then r :: s :: rest else s :: place r rest

/-- The directory with a tenant registered, and the tenant's record. -/
def create (d : Directory) (t : NewTenant) (actor : Option Int) (now : Instant) :
    Except Error (Record × Directory) := do
  t.check
  if (d.get? t.tenantId).isSome then .error (.tenantExists t.tenantId)
  else
    let r := t.record actor now
    .ok (r, ⟨place r d.records⟩)

/-- A record marked as inactive. -/
def deactivated (r : Record) (actor : Option Int) (now : Instant) : Record :=
  { r with isActive := false, changedOn := now, changedBy := actor }

/-- The directory with a tenant deactivated, and the tenant's record. -/
def deactivate (d : Directory) (id : String) (actor : Option Int) (now : Instant) :
    Except Error (Record × Directory) :=
  match d.get? id with
  | none => .error (.tenantNotFound id)
  | some r =>
    .ok (deactivated r actor now,
      ⟨d.records.map fun s => if s.tenantId.text = id then deactivated s actor now else s⟩)

/-- Whether a tenant is registered and active. -/
def isActive (d : Directory) (id : String) : Bool := (d.get? id).any Record.isActive

end Directory

end Tenancy.Registry
