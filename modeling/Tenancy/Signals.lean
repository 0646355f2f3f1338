/-!
# What a request says about its tenant

Three texts of a request bear on its tenant: the host it was sent to, the header that names a
tenant, and the header by which an administrator acts for one.
-/

set_option autoImplicit false

namespace Tenancy

/-- The texts of a request that bear on its tenant. -/
structure Signals where
  host : Option String
  tenantHeader : Option String
  impersonationHeader : Option String
  deriving DecidableEq, Repr

/-- A request that says nothing. -/
def Signals.none : Signals := ⟨.none, .none, .none⟩

end Tenancy
