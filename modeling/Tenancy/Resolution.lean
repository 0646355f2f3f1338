import Tenancy.Context
import Tenancy.Hostname
import Tenancy.Logged
import Tenancy.Principal
import Tenancy.Settings
import Tenancy.Signals
import Tenancy.TenantId.Memo

/-!
# Resolving a request to a tenant

Four signals can name the tenant, and the first that has a candidate wins: the tenant header, the
host's first label, the caller's identity, the configured default. The header is taken as it is,
white space around it apart; a label or an identity counts only if it is a valid id, and is
otherwise as if it were not there. The registry is never asked.

Checking an id goes through the memo, which the caller hands in and gets back.
-/

set_option autoImplicit false

namespace Tenancy.Resolution

/-- Steps of resolution: they share the memo, and they log. -/
abbrev Step := StateT TenantId.Memo Logged

/-- Whether a text is a valid id, through the memo. -/
def isValid (candidate : String) : Step Bool := fun memo => pure (memo.check candidate)

/-- The tenant that the header names. -/
def headerCandidate (signals : Signals) : Option String :=
  signals.tenantHeader.bind Text.nonBlank?

/-- A text if it is a valid id; otherwise an event is left. -/
def ifValid (candidate : String) (otherwise : Event) : Step (Option String) := do
  if ← isValid candidate then return some candidate
  note otherwise
  return none

/-- The tenant that the host names, if hosts name tenants. -/
def subdomainCandidate (settings : Settings) (signals : Signals) : Step (Option String) :=
  if settings.subdomainRouting then
    match signals.host.bind Hostname.subdomain? with
    | some label => ifValid label (.subdomainInvalid label)
    | none => return none
  else return none

/-- What the caller's identity says, before it is checked: the direct tenant, or else the claims. -/
def identityHint (principal : Principal) : Step (Option String) :=
  match principal.directTenant? with
  | some t => return some t
  | none =>
    match principal.claims with
    | none => return none
    | some claims =>
      match claims.hint with
      | .ok hint => return hint
      | .error _ => do
        note (.claimsUnreadable principal.username)
        return none

/-- The tenant that the caller's identity names. -/
def identityCandidate (principal : Option Principal) : Step (Option String) :=
  match principal with
  | none => return none
  | some p => do
    match ← identityHint p with
    | some hint => ifValid hint (.claimInvalid p.username)
    | none => return none

/-- The winning candidate and its signal. Signals behind the winner are not looked at. -/
def candidate (settings : Settings) (signals : Signals) (principal : Option Principal) :
    Step (Option (String × Source)) := do
  if let some t := headerCandidate signals then return some (t, .header)
  if let some t ← subdomainCandidate settings signals then return some (t, .subdomain)
  if let some t ← identityCandidate principal then return some (t, .identityClaim)
  return settings.defaultTenant.map fun t => (t, .configuredDefault)

/-- The name by which a caller is logged. -/
def userName (principal : Option Principal) : String :=
  (principal.map Principal.username).getD "anonymous"

/-- The context of a request. -/
def resolve (settings : Settings) (now : Instant) (signals : Signals)
    (principal : Option Principal) : Step Context := do
  match ← candidate settings signals principal with
  | some (t, source) =>
    note (.tenantResolved ⟨t⟩ source)
    return .resolved ⟨t⟩ source now
  | none =>
    note (.noTenantResolved (signals.host.getD "") (userName principal))
    return .unresolved now

end Tenancy.Resolution
