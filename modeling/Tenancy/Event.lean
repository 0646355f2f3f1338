import Tenancy.Kind
import Tenancy.Source
import Tenancy.TenantId
import Tenancy.Text.Escaped

/-!
# What is logged

Every decision that someone may ask about later leaves an event: its level, a fixed message, and
fields whose values are text. An event is a value of the type below, so a decision's events can be
stated and compared as well as its answer.
-/

set_option autoImplicit false

namespace Tenancy

/-- How much an event matters. -/
inductive Level where
  | debug
  | info
  | warn
  deriving DecidableEq, Repr

/-- The name of a level. -/
def Level.name : Level → String
  | .debug => "debug"
  | .info => "info"
  | .warn => "warn"

/-- An event. -/
inductive Event where
  | tenantResolved (tenant : TenantId) (source : Source)
  | noTenantResolved (host user : String)
  | subdomainInvalid (subdomain : String)
  | claimInvalid (user : String)
  | claimsUnreadable (user : String)
  | impersonationIgnored (user : String)
  | accessDenied (kind : Kind) (id : String)
  | accessRefused (kind : Kind) (id tenant : String)
  | cacheNotInvalidated (tenant : TenantId)
  | cacheCleared (tenant : TenantId) (removed : Nat)
  | poolCreated (tenant : TenantId) (schema : String)
  | contextKept (path : String)
  | registryUnavailable
  | resourcesListed (kind : Kind) (tenant : String) (count : Nat)
  | queried (sql : String) (params : List String)
  | tenantRegistered (tenant : TenantId) (schema : String)
  | tenantDeactivated (tenant : TenantId)
  | tableMissing (table : String)
  | labelColumnReady (table : String)
  deriving DecidableEq, Repr

namespace Event

/-- How much the event matters. -/
def level : Event → Level
  | tenantResolved .. | subdomainInvalid .. | claimInvalid .. | accessDenied ..
  | resourcesListed .. | queried .. | tableMissing .. => .debug
  | cacheCleared .. | poolCreated .. | tenantRegistered .. | tenantDeactivated ..
  | labelColumnReady .. => .info
  | noTenantResolved .. | claimsUnreadable .. | impersonationIgnored .. | accessRefused ..
  | cacheNotInvalidated .. | contextKept .. | registryUnavailable => .warn

/-- What the event says. -/
def message : Event → String
  | tenantResolved .. => "resolved tenant"
  | noTenantResolved .. => "no tenant resolved for request"
  | subdomainInvalid .. => "subdomain is not a valid tenant id"
  | claimInvalid .. => "identity claim is not a valid tenant id"
  | claimsUnreadable .. => "failed to extract tenant from identity claims"
  | impersonationIgnored .. => "ignoring impersonation header from non-admin caller"
  | accessDenied .. => "tenant isolation denied access"
  | accessRefused .. => "tenant isolation denied access"
  | cacheNotInvalidated .. =>
    "cache backend cannot delete by prefix; tenant cache not invalidated"
  | cacheCleared .. => "cleared tenant cache entries"
  | poolCreated .. => "created tenant pool"
  | contextKept .. => "tenant context already set; keeping existing value"
  | registryUnavailable => "tenant registry unavailable"
  | resourcesListed .. => "listed resources"
  | queried .. => "query"
  | tenantRegistered .. => "registered tenant"
  | tenantDeactivated .. => "deactivated tenant"
  | tableMissing .. => "table missing; skipping tenant column"
  | labelColumnReady .. => "tenant column ready"

/-- The event's fields, by name. -/
def fields : Event → List (String × String)
  | tenantResolved tenant source => [("tenant", tenant.text), ("source", source.name)]
  | noTenantResolved host user => [("host", host), ("user", user)]
  | subdomainInvalid subdomain => [("subdomain", subdomain)]
  | claimInvalid user => [("user", user)]
  | claimsUnreadable user => [("user", user)]
  | impersonationIgnored user => [("user", user)]
  | accessDenied kind id => [("kind", kind.name), ("id", id)]
  | accessRefused kind id tenant => [("kind", kind.name), ("id", id), ("tenant", tenant)]
  | cacheNotInvalidated tenant => [("tenant", tenant.text)]
  | cacheCleared tenant removed => [("tenant", tenant.text), ("removed", toString removed)]
  | poolCreated tenant schema => [("tenant", tenant.text), ("schema", schema)]
  | contextKept path => [("path", path)]
  | registryUnavailable => []
  | resourcesListed kind tenant count =>
    [("kind", kind.name), ("tenant", tenant), ("count", toString count)]
  | queried sql params => [("sql", sql), ("params", Text.listInQuotes params)]
  | tenantRegistered tenant schema => [("tenant", tenant.text), ("schema", schema)]
  | tenantDeactivated tenant => [("tenant", tenant.text)]
  | tableMissing table => [("table", table)]
  | labelColumnReady table => [("table", table)]

end Event

end Tenancy
