import Tenancy.Settings
import Tenancy.Text.Blank
import Tenancy.Text.LowerCase
import Tenancy.Text.Natural

/-!
# Settings from variables

Each setting can be given by a variable. White space around a value does not count; a blank default
tenant is none, and a blank flag is off. The variables are read in a fixed order and the first that
cannot be read is told by its name; what was read is then checked as all settings are.
-/

set_option autoImplicit false

namespace Tenancy.Settings

/-- The variables, in the order they are read. -/
inductive Variable where
  | tenantHeader
  | subdomainRouting
  | defaultTenant
  | impersonationHeader
  | strict
  | listUnscoped
  | memoCapacity
  | fallbackSchema
  deriving DecidableEq, Repr

/-- The name of a variable. -/
def Variable.name : Variable → String
  | .tenantHeader => "TENANT_HEADER"
  | .subdomainRouting => "ENABLE_SUBDOMAIN_TENANT_ROUTING"
  | .defaultTenant => "DEFAULT_TENANT_ID"
  | .impersonationHeader => "TENANT_IMPERSONATION_HEADER"
  | .strict => "TENANT_STRICT_MODE"
  | .listUnscoped => "TENANT_LISTINGS_INCLUDE_UNSCOPED"
  | .memoCapacity => "TENANT_VALIDATION_CACHE_CAPACITY"
  | .fallbackSchema => "TENANT_FALLBACK_SCHEMA"

/-- A flag: one of eight words in any letter case, or blank, which is off. -/
def flag (v : Variable) (raw : String) : Except SettingsError Bool :=
  let word := Text.lowerAscii (Text.trim raw)
  if ["1", "true", "yes", "on"].contains word then .ok true
  else if ["0", "false", "no", "off", ""].contains word then .ok false
  else .error (.invalid v.name ("expected a boolean, got '" ++ word ++ "'"))

/-- A capacity: a whole number of one word. -/
def capacity (v : Variable) (raw : String) : Except SettingsError Nat :=
  match Text.Natural.parse Text.Natural.max64 (Text.trim raw) with
  | .ok n => .ok n
  | .error _ => .error (.invalid v.name ("expected a positive integer, got '" ++ raw ++ "'"))

/-- The value of a variable, or what stands where it is not set. -/
def setting {α : Type} (lookup : String → Option String) (v : Variable) (unset : α)
    (read : String → Except SettingsError α) : Except SettingsError α :=
  match lookup v.name with
  | none => .ok unset
  | some raw => read raw

/-- The settings that the variables give, before they are checked. -/
def readVariables (lookup : String → Option String) : Except SettingsError Settings := do
  let d := default
  let tenantHeader ←
    setting lookup .tenantHeader d.tenantHeader fun raw => .ok (Text.trim raw)
  let subdomainRouting ←
    setting lookup .subdomainRouting d.subdomainRouting (flag .subdomainRouting)
  let defaultTenant ←
    setting lookup .defaultTenant d.defaultTenant fun raw => .ok (Text.nonBlank? raw)
  let impersonationHeader ←
    setting lookup .impersonationHeader d.impersonationHeader fun raw => .ok (Text.trim raw)
  let strict ← setting lookup .strict d.strict (flag .strict)
  let listUnscoped ← setting lookup .listUnscoped d.listUnscoped (flag .listUnscoped)
  let memoCapacity ← setting lookup .memoCapacity d.memoCapacity (capacity .memoCapacity)
  let fallbackSchema ←
    setting lookup .fallbackSchema d.fallbackSchema fun raw => .ok (Text.trim raw)
  return ⟨tenantHeader, subdomainRouting, defaultTenant, impersonationHeader, strict, listUnscoped,
    memoCapacity, fallbackSchema⟩

/-- The settings that the variables give, if they can be used. -/
def ofVariables (lookup : String → Option String) : Except SettingsError Settings := do
  let s ← readVariables lookup
  check s
  return s

end Tenancy.Settings
