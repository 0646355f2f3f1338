import Tenancy.Context
import Tenancy.Logged
import Tenancy.Principal
import Tenancy.Text.Blank

/-!
# On whose behalf a decision is made

A scope is what every access decision sees: the request's context, the caller, the tenant that an
administrator acts for, and whether tenancy is strict. Its effective tenant is the context's, and
only where there is none the impersonated one; everything that asks for the tenant asks for that.
-/

set_option autoImplicit false

namespace Tenancy

/-- What access decisions see of a request. -/
structure Scope where
  context : Context
  principal : Option Principal
  impersonated : Option TenantId
  strict : Bool
  deriving Repr

namespace Scope

/-- The scope of a context and a caller, nobody impersonated and not strict. -/
def of (context : Context) (principal : Option Principal) : Scope :=
  ⟨context, principal, none, false⟩

/-- Whether the caller is an administrator. -/
def isAdmin (s : Scope) : Bool := s.principal.any Principal.isAdmin

/-- The name by which the caller is logged. -/
def userName (s : Scope) : String := (s.principal.map Principal.username).getD "anonymous"

/-- The tenant that an impersonation header asks for: its value unless that is blank. -/
def requestedTenant? (header : Option String) : Option TenantId :=
  (header.bind Text.nonBlank?).map TenantId.mk

/-- The scope with an impersonation header. Only administrators impersonate. -/
def impersonating (s : Scope) (header : Option String) : Scope :=
  { s with impersonated := if s.isAdmin then requestedTenant? header else none }

/-- The scope with an impersonation header; a header that asks for a tenant and is ignored is
logged. -/
def withImpersonation {m : Type → Type} [Monad m] [Logging m] (s : Scope)
    (header : Option String) : m Scope := do
  if (requestedTenant? header).isSome && !s.isAdmin then
    note (.impersonationIgnored s.userName)
  return s.impersonating header

/-- The scope, strict or not. -/
def withStrict (s : Scope) (strict : Bool) : Scope := { s with strict }

/-- The effective tenant. -/
def tenant (s : Scope) : Option TenantId := s.context.tenant <|> s.impersonated

/-- The effective tenant as it is logged. -/
def tenantName (s : Scope) : String := (s.tenant.map TenantId.text).getD "none"

/-- Whether the effective tenant is the impersonated one. -/
def isImpersonating (s : Scope) : Bool := s.context.tenant.isNone && s.impersonated.isSome

/-- Whether the caller is refused for want of a tenant. -/
def deniesUnscopedCaller (s : Scope) : Bool := s.strict && s.tenant.isNone && !s.isAdmin

end Scope

end Tenancy
