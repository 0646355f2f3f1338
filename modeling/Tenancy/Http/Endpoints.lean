import Tenancy.Http.Extract
import Tenancy.Http.Route

/-!
# What the service does

Handlers first take what they need from the request, in a fixed order, and the first thing that is
missing or wrong is the response; only then do they ask who is calling, and act. Nobody but an
administrator gets past `requireAdmin`, and resources are only reached through the gate.
-/

set_option autoImplicit false

namespace Tenancy.Http

namespace Service

/-! ## Who may do what -/

/-- The caller, if an administrator. -/
def requireAdmin (scope : Scope) : Handler Principal :=
  match scope.principal with
  | some p =>
    if p.isAdmin then return p else throw refusal
  | none => throw refusal
where
  refusal : Response :=
    .ofError (.forbidden "tenant administration requires the admin role")

/-- The id of a tenant, if it is valid. -/
def checkedId (id : String) : Handler String := do
  if ← (onMemo (Resolution.isValid id) : Step Bool) then return id
  else throw (.ofError (.badRequest ("invalid tenant id: " ++ id)))

/-- The table of a kind of resource. -/
def tableOf (segment : String) : Handler Table :=
  match Kind.ofSegment? segment with
  | some kind => return .ofKind kind
  | none => throw (.ofError (.notFound ("unknown resource kind: " ++ segment)))

/-! ## Handlers -/

/-- Whether the registry answers. -/
def ready (s : Service) (now : Instant) : Handler Response := do
  match ← ((onDirectory (s.registry now).ping).run : Step (Except Error Unit)) with
  | .ok () => return .json 200 (.ofPairs [("status", .text "ok"), ("registry", .text "ok")])
  | .error _ =>
    note .registryUnavailable
    return .json 503 (.ofPairs [("status", .text "degraded"), ("registry", .text "unavailable")])

/-- What the request was resolved to, and on whose behalf it acts. -/
def currentTenant (s : Service) (r : Request) : Handler Response := do
  let c ← context r
  let scope ← s.scope r
  let name (t : Option TenantId) : Json := .ofText? (t.map TenantId.text)
  return .one 200 (.ofPairs [("tenant_id", name c.tenant), ("source", .text c.source.name),
    ("resolved_at", .text c.resolvedAt.render), ("effective_tenant_id", name scope.tenant),
    ("impersonating", .bool scope.isImpersonating)])

/-- The registered tenants, for administrators. -/
def listTenants (s : Service) (now : Instant) (r : Request) : Handler Response := do
  let scope ← s.scope r
  let activeOnly ← activeOnly r
  discard (requireAdmin scope)
  let records ← attempt (onDirectory ((s.registry now).list activeOnly))
  return .many (records.map Registry.Record.toJson)

/-- Registers the tenant that the body describes, for administrators. -/
def createTenant (s : Service) (now : Instant) (r : Request) : Handler Response := do
  let scope ← s.scope r
  let t ← newTenant r
  let admin ← requireAdmin scope
  let record ← attempt (onDirectory ((s.registry now).create t admin.id))
  return .one 201 record.toJson

/-- One registered tenant, for administrators. -/
def getTenant (s : Service) (now : Instant) (r : Request) (raw : List Char) :
    Handler Response := do
  let scope ← s.scope r
  let id ← parameter "tenant_id" raw
  discard (requireAdmin scope)
  let id ← checkedId id
  match ← attempt (onDirectory ((s.registry now).get? id)) with
  | some record => return .one 200 record.toJson
  | none => throw (.ofError (.tenantNotFound id))

/-- Deactivates a tenant, for administrators. -/
def deactivateTenant (s : Service) (now : Instant) (r : Request) (raw : List Char) :
    Handler Response := do
  let scope ← s.scope r
  let id ← parameter "tenant_id" raw
  let admin ← requireAdmin scope
  let id ← checkedId id
  let record ← attempt (onDirectory ((s.registry now).deactivate id admin.id))
  return .one 200 record.toJson

/-- Drops a tenant's cached values, for administrators. -/
def invalidateCache (s : Service) (r : Request) (raw : List Char) : Handler Response := do
  let scope ← s.scope r
  let id ← parameter "tenant_id" raw
  discard (requireAdmin scope)
  let id ← checkedId id
  let st ← (get : Step State)
  let (removed, cache) ← attempt (st.cache.invalidate ⟨id⟩)
  set { st with cache }
  return .one 200 (.ofPairs [("tenant_id", .text id), ("removed", .ofNat removed)])

/-- The resources of a kind that the gate lets the caller see. -/
def listResources (s : Service) (r : Request) (raw : List Char) : Handler Response := do
  let scope ← s.scope r
  let segment ← parameter "kind" raw
  let table ← tableOf segment
  let rows ← attempt (s.gate.listAccessible scope s.inventory.catalog table)
  note (.resourcesListed table.kind scope.tenantName rows.length)
  return .many (rows.map fun row => row.item.toJson)

/-- One resource, if the gate lets the caller see it. -/
def readResource (s : Service) (r : Request) (rawKind rawId : List Char) : Handler Response := do
  let scope ← s.scope r
  let segment ← parameter "kind" rawKind
  let id ← parameter "id" rawId
  let table ← tableOf segment
  let row ← attempt (s.gate.getAccessible scope s.inventory.catalog table id)
  return .one 200 row.item.toJson

/-- The name and version of the service. -/
def versionInfo : Json :=
  .ofPairs [("name", .text "tenant-scope"), ("version", .text "0.1.0")]

/-- What an endpoint does with a request. -/
def handle (s : Service) (now : Instant) (e : Endpoint) (r : Request) : Handler Response :=
  match e with
  | .health => return .json 200 (.ofPairs [("status", .text "ok")])
  | .ready => s.ready now
  | .version => return .json 200 versionInfo
  | .currentTenant => s.currentTenant r
  | .listTenants => s.listTenants now r
  | .createTenant => s.createTenant now r
  | .getTenant id => s.getTenant now r id
  | .deactivateTenant id => s.deactivateTenant now r id
  | .invalidateCache id => s.invalidateCache r id
  | .listResources kind => s.listResources r kind
  | .readResource kind id => s.readResource r kind id

end Service

end Tenancy.Http
