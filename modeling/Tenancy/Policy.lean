import Tenancy.Error
import Tenancy.Resource
import Tenancy.Scope

/-!
# The base policy

Behind the tenant check stands a policy that knows nothing of tenants. It answers whether a caller
may access a resource, raises where it may not, and narrows the names of a database's data sources.
The last two have defaults that follow from the first.
-/

set_option autoImplicit false

namespace Tenancy

/-- The failure of a caller whose permissions do not reach. -/
def permissionError (r : Resource) : Error :=
  .forbidden (r.item.kind.name ++ " " ++ r.item.id ++ " requires additional permissions")

/-- An access policy. -/
structure Policy where
  canAccess : Scope → Resource → Bool
  raise : Scope → Resource → Except Error Unit := fun scope r =>
    if canAccess scope r then .ok () else .error (permissionError r)
  datasources : Scope → Database → List String → List String := fun _ _ names => names

namespace Policy

/-- Everyone may access everything. -/
def allowAll : Policy where
  canAccess _ _ := true

/-- Administrators may access everything, other callers the given kinds, and nobody nothing. -/
def byRole (kinds : List Kind) : Policy where
  canAccess scope r :=
    match scope.principal.map Principal.role with
    | some .admin => true
    | some .standard => kinds.contains r.item.kind
    | none => false

/-- One answer for everything. -/
def constant (answer : Bool) : Policy where
  canAccess _ _ := answer

end Policy

end Tenancy
