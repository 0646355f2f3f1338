/-!
# Where a tenant came from

A request's tenant comes from one of four signals, tried in the order of the constructors, or there
is none.
-/

set_option autoImplicit false

namespace Tenancy

/-- The signal that named the tenant. -/
inductive Source where
  | header
  | subdomain
  | identityClaim
  | configuredDefault
  | none
  deriving DecidableEq, Repr

namespace Source

/-- All sources. -/
def all : List Source := [.header, .subdomain, .identityClaim, .configuredDefault, .none]

/-- The name of the source in data and messages. -/
def name : Source → String
  | .header => "header"
  | .subdomain => "subdomain"
  | .identityClaim => "identity_claim"
  | .configuredDefault => "configured_default"
  | .none => "none"

/-- The source of a name. -/
def ofName? (s : String) : Option Source := all.find? (·.name == s)

end Source

end Tenancy
