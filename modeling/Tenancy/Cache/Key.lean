import Tenancy.Scope

/-!
# Keys of cached values

A key is a base key inside a name space: the tenant's, or the global one where there is no tenant.
The base key is never looked into. `keySpace t` is what all keys of tenant `t` begin with.
-/

set_option autoImplicit false

namespace Tenancy.Cache

/-- What the keys of a tenant begin with. -/
def keySpace (tenant : TenantId) : String := "tenant:" ++ tenant.text ++ ":"

/-- What the keys without a tenant begin with. -/
def globalSpace : String := "global:"

/-- A base key inside the name space of a tenant, or the global one. -/
def key (base : String) (tenant : Option TenantId) : String :=
  match tenant with
  | some t => keySpace t ++ base
  | none => globalSpace ++ base

/-- A base key inside the name space of the scope's tenant, unless another is given. -/
def scopedKey (scope : Scope) (base : String) (instead : Option TenantId) : String :=
  key base (instead <|> scope.tenant)

end Tenancy.Cache
