import Tenancy.Instant
import Tenancy.Source
import Tenancy.TenantId

/-!
# The tenant a request was resolved to

A context is what resolution leaves on a request: at most one tenant, the signal that named it, and
the moment. Whatever asks later which tenant a request belongs to asks the context.
-/

set_option autoImplicit false

namespace Tenancy

/-- The outcome of resolution. -/
structure Context where
  tenant : Option TenantId
  source : Source
  resolvedAt : Instant
  deriving DecidableEq, Repr

namespace Context

/-- A request that belongs to a tenant. -/
def resolved (tenant : TenantId) (source : Source) (now : Instant) : Context :=
  ⟨some tenant, source, now⟩

/-- A request that belongs to no tenant. -/
def unresolved (now : Instant) : Context := ⟨none, .none, now⟩

/-- Whether there is a tenant. -/
def isResolved (c : Context) : Bool := c.tenant.isSome

end Context

end Tenancy
