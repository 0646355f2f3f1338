import Tenancy.Json.Printer
import Tenancy.Resource
import Tenancy.Table

/-!
# Rows of resource tables

A row is a resource as it is stored: its kind and id, the tenant it is labelled with, whether its
table carries labels at all, and everything else as data. A row may come with the row of the
database that it belongs to. `Row.facet` is what decisions see of a row; there, a label counts only
if the table carries labels.
-/

set_option autoImplicit false

namespace Tenancy

/-- A stored resource. -/
structure Row where
  kind : Kind
  id : String
  tenantId : Option TenantId
  labeled : Bool
  data : Json
  deriving Repr

/-- A row with the rows it belongs to. -/
abbrev OwnedRow := Owned Row

namespace Row

/-- What decisions see of a row. -/
def facet (r : Row) : Facet := ⟨r.kind, r.id, if r.labeled then some r.tenantId else none⟩

/-- A row of a table from its columns as data: the id is any value as text, and a label counts only
if it is a text. -/
def ofColumns (table : Table) (data : Json) : Row where
  kind := table.kind
  id := ((data.member? table.idColumn).bind Json.plainText?).getD ""
  tenantId := table.tenantColumn.bind fun column =>
    (data.member? column).bind TenantId.ofJson?
  labeled := table.tenantColumn.isSome
  data := data

/-- A row as callers are shown it. -/
def toJson (r : Row) : Json :=
  .ofPairs [("kind", .text r.kind.key), ("id", .text r.id),
    ("tenant_id", .ofText? (r.tenantId.map TenantId.text)), ("data", r.data)]

end Row

instance : Protected OwnedRow := ⟨Owned.map Row.facet⟩

end Tenancy
