import Tenancy.Error
import Tenancy.Instant
import Tenancy.Json.Record
import Tenancy.Resource

/-!
# What is known of a registered tenant

A record describes a tenant: its id and name, whether it is active, where its data lies, and who
registered and last changed it. `NewTenant` is what a caller supplies to register one, and `check`
says why a supply is refused. A tenant without a schema of its own has one named like itself.
-/

set_option autoImplicit false

namespace Tenancy.Registry

/-- A registered tenant. -/
structure Record where
  tenantId : TenantId
  name : String
  description : Option String
  isActive : Bool
  databaseSchema : Option String
  configuration : Option Json
  createdOn : Instant
  changedOn : Instant
  createdBy : Option Int
  changedBy : Option Int
  deriving Repr, BEq

namespace Record

/-- The schema of the tenant's data. -/
def schemaName (r : Record) : String :=
  match r.databaseSchema with
  | some s => if s = "" then r.tenantId.text else s
  | none => r.tenantId.text

/-- The names of a record's fields, in order. -/
def fieldNames : List String :=
  ["tenant_id", "tenant_name", "description", "is_active", "database_schema", "configuration",
    "created_on", "changed_on", "created_by_fk", "changed_by_fk"]

/-- The fields of a record in data. -/
def fields : List Json.Field :=
  [⟨"tenant_id", .text, .required⟩, ⟨"tenant_name", .text, .required⟩,
    ⟨"description", .textOrNull, .optional⟩, ⟨"is_active", .flag, .required⟩,
    ⟨"database_schema", .textOrNull, .optional⟩, ⟨"configuration", .any, .optional⟩,
    ⟨"created_on", .text, .required⟩, ⟨"changed_on", .text, .required⟩,
    ⟨"created_by_fk", .any, .optional⟩, ⟨"changed_by_fk", .any, .optional⟩]

/-- A moment from data. -/
def instantOf? (j : Json) : Option Instant := j.asText?.bind Instant.parse

/-- A record from data. -/
def ofJson? (j : Json) : Option Record := do
  let m ← Json.recordOf? fields j
  let tenantId ← Json.Members.field? m "tenant_id" TenantId.ofJson?
  let name ← Json.Members.field? m "tenant_name" Json.asText?
  let description ← Json.Members.optional? m "description" Json.asText?
  let isActive ← Json.Members.field? m "is_active" Json.asBool?
  let databaseSchema ← Json.Members.optional? m "database_schema" Json.asText?
  let configuration ← Json.Members.optional? m "configuration" some
  let createdOn ← Json.Members.field? m "created_on" instantOf?
  let changedOn ← Json.Members.field? m "changed_on" instantOf?
  let createdBy ← Json.Members.optional? m "created_by_fk" Json.asSigned?
  let changedBy ← Json.Members.optional? m "changed_by_fk" Json.asSigned?
  return ⟨tenantId, name, description, isActive, databaseSchema, configuration, createdOn,
    changedOn, createdBy, changedBy⟩

/-- A record as data. -/
def toJson (r : Record) : Json :=
  .ofPairs [("tenant_id", .text r.tenantId.text), ("tenant_name", .text r.name),
    ("description", .ofText? r.description), ("is_active", .bool r.isActive),
    ("database_schema", .ofText? r.databaseSchema),
    ("configuration", r.configuration.getD .null), ("created_on", .text r.createdOn.render),
    ("changed_on", .text r.changedOn.render), ("created_by_fk", .ofOption .ofInt r.createdBy),
    ("changed_by_fk", .ofOption .ofInt r.changedBy)]

end Record

/-- What is supplied to register a tenant. -/
structure NewTenant where
  tenantId : String
  name : String
  description : Option String
  databaseSchema : Option String
  configuration : Option Json
  deriving Repr, BEq

namespace NewTenant

/-- A tenant of whom only id and name are given. -/
def named (tenantId name : String) : NewTenant := ⟨tenantId, name, none, none, none⟩

/-- Whether the supply can be registered, or the first thing that is wrong with it. -/
def check (t : NewTenant) : Except Error Unit := do
  if !TenantId.isValidText t.tenantId then
    .error (.validation ("invalid tenant id '" ++ t.tenantId ++
      "': expected 2-50 letters, digits, '-' or '_'"))
  if Text.nonBlank? t.name = none then .error (.validation "tenant_name is required")
  if let some schema := t.databaseSchema then
    if !TenantId.isValidText schema then
      .error (.validation ("invalid database_schema '" ++ schema ++ "'"))

/-- The record of a tenant that is registered now. -/
def record (t : NewTenant) (actor : Option Int) (now : Instant) : Record :=
  ⟨⟨t.tenantId⟩, t.name, t.description, true, t.databaseSchema, t.configuration, now, now, actor,
    actor⟩

/-- The fields of a supply in data. -/
def fields : List Json.Field :=
  [⟨"tenant_id", .text, .required⟩, ⟨"tenant_name", .text, .required⟩,
    ⟨"description", .textOrNull, .defaulted⟩, ⟨"database_schema", .textOrNull, .defaulted⟩,
    ⟨"configuration", .any, .defaulted⟩]

/-- A supply from its fields. -/
def ofMembers? (m : Json.Members) : Option NewTenant := do
  let tenantId ← Json.Members.field? m "tenant_id" Json.asText?
  let name ← Json.Members.field? m "tenant_name" Json.asText?
  let description ← Json.Members.optional? m "description" Json.asText?
  let databaseSchema ← Json.Members.optional? m "database_schema" Json.asText?
  let configuration ← Json.Members.optional? m "configuration" some
  return ⟨tenantId, name, description, databaseSchema, configuration⟩

/-- A supply from data. -/
def ofJson? (j : Json) : Option NewTenant := (Json.recordOf? fields j).bind ofMembers?

/-- A supply as data. -/
def toJson (t : NewTenant) : Json :=
  .ofPairs [("tenant_id", .text t.tenantId), ("tenant_name", .text t.name),
    ("description", .ofText? t.description), ("database_schema", .ofText? t.databaseSchema),
    ("configuration", t.configuration.getD .null)]

end NewTenant

end Tenancy.Registry
