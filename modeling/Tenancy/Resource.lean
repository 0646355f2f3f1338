import Tenancy.Json.Record
import Tenancy.Kind
import Tenancy.Owned
import Tenancy.TenantId

/-!
# Protected resources

What a decision sees of a resource is its kind, its id, its label and what it belongs to. A resource
may be unable to carry a label at all, which is not the same as carrying none: `label` is `none` for
the first and `some none` for the second.

The five kinds of resource are also structures of their own, and `Protected` is the class of
everything that can be looked at in this way.
-/

set_option autoImplicit false

namespace Tenancy

/-- What a decision sees of a resource by itself. -/
structure Facet where
  kind : Kind
  id : String
  label : Option (Option TenantId)
  deriving DecidableEq, Repr

/-- A resource with all that it belongs to. -/
abbrev Resource := Owned Facet

/-- Things that decisions can be made about. -/
class Protected (α : Type) where
  resource : α → Resource

export Protected (resource)

instance : Protected Resource := ⟨id⟩

/-- A resource of a kind that carries labels, under its number. -/
def Facet.labeled (kind : Kind) (id : Int) (label : Option TenantId) : Facet :=
  ⟨kind, toString id, some label⟩

/-- A database. -/
structure Database where
  id : Int
  name : String
  tenantId : Option TenantId
  deriving DecidableEq, Repr

/-- A data source, which belongs to a database. -/
structure Datasource where
  id : Int
  tableName : String
  database : Database
  tenantId : Option TenantId
  deriving DecidableEq, Repr

/-- A dashboard. -/
structure Dashboard where
  id : Int
  title : String
  tenantId : Option TenantId
  deriving DecidableEq, Repr

/-- A chart. -/
structure Chart where
  id : Int
  sliceName : String
  tenantId : Option TenantId
  deriving DecidableEq, Repr

/-- A saved query. -/
structure SavedQuery where
  id : Int
  label : String
  tenantId : Option TenantId
  deriving DecidableEq, Repr

instance : Protected Database := ⟨fun d => .free (.labeled .database d.id d.tenantId)⟩

instance : Protected Datasource :=
  ⟨fun d => .under (.labeled .datasource d.id d.tenantId) (resource d.database)⟩

instance : Protected Dashboard := ⟨fun d => .free (.labeled .dashboard d.id d.tenantId)⟩

instance : Protected Chart := ⟨fun c => .free (.labeled .chart c.id c.tenantId)⟩

instance : Protected SavedQuery := ⟨fun q => .free (.labeled .savedQuery q.id q.tenantId)⟩

/-! ## From data -/

/-- A tenant id from data. -/
def TenantId.ofJson? (j : Json) : Option TenantId := j.asText?.map TenantId.mk

/-- The number, name and tenant of a resource whose name is in the given field. -/
def namedFields? (nameField : String) (j : Json) : Option (Int × String × Option TenantId) := do
  let m ← Json.recordOf? [⟨"id", .any, .required⟩, ⟨nameField, .text, .required⟩,
    ⟨"tenant_id", .textOrNull, .defaulted⟩] j
  let id ← Json.Members.field? m "id" Json.asSigned?
  let name ← Json.Members.field? m nameField Json.asText?
  let tenantId ← Json.Members.optional? m "tenant_id" TenantId.ofJson?
  return (id, name, tenantId)

/-- A database from data. -/
def Database.ofJson? (j : Json) : Option Database :=
  (namedFields? "database_name" j).map fun (id, name, t) => ⟨id, name, t⟩

/-- A data source from data. -/
def Datasource.ofJson? (j : Json) : Option Datasource := do
  let m ← Json.recordOf? [⟨"id", .any, .required⟩, ⟨"table_name", .text, .required⟩,
    ⟨"database", .any, .required⟩, ⟨"tenant_id", .textOrNull, .defaulted⟩] j
  let id ← Json.Members.field? m "id" Json.asSigned?
  let tableName ← Json.Members.field? m "table_name" Json.asText?
  let database ← Json.Members.field? m "database" Database.ofJson?
  let tenantId ← Json.Members.optional? m "tenant_id" TenantId.ofJson?
  return ⟨id, tableName, database, tenantId⟩

/-- A dashboard from data. -/
def Dashboard.ofJson? (j : Json) : Option Dashboard :=
  (namedFields? "dashboard_title" j).map fun (id, name, t) => ⟨id, name, t⟩

/-- A chart from data. -/
def Chart.ofJson? (j : Json) : Option Chart :=
  (namedFields? "slice_name" j).map fun (id, name, t) => ⟨id, name, t⟩

/-- A saved query from data. -/
def SavedQuery.ofJson? (j : Json) : Option SavedQuery :=
  (namedFields? "label" j).map fun (id, name, t) => ⟨id, name, t⟩

end Tenancy
