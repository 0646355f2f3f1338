import Tenancy.Error
import Tenancy.Json.Record
import Tenancy.TenantId
import Tenancy.TenantId.Memo

/-!
# Settings

How tenants are found and how strictly they are kept apart. Every setting has a default. `check`
tells the first setting that cannot be used, in the order of the checks below.
-/

set_option autoImplicit false

namespace Tenancy

/-- The settings of tenancy. -/
structure Settings where
  /-- The request header that names the tenant. -/
  tenantHeader : String
  /-- Whether the first label of the host names the tenant. -/
  subdomainRouting : Bool
  /-- The tenant of requests that name none. -/
  defaultTenant : Option String
  /-- The request header by which an administrator acts for a tenant. -/
  impersonationHeader : String
  /-- Whether callers without a tenant are refused unless they are administrators. -/
  strict : Bool
  /-- Whether a tenant's listings include resources that belong to nobody. -/
  listUnscoped : Bool
  /-- How many checked ids are remembered. -/
  memoCapacity : Nat
  /-- The schema that stands behind a tenant's own in the search path. -/
  fallbackSchema : String
  deriving DecidableEq, Repr

namespace Settings

/-- The settings where nothing is set. -/
def default : Settings :=
  ⟨"X-Tenant-ID", false, none, "X-Impersonate-Tenant", false, false,
    TenantId.Memo.defaultCapacity, "public"⟩

instance : Inhabited Settings := ⟨default⟩

/-- The characters of a header name besides letters and digits. -/
def headerMarks : List Char :=
  ['!', '#', '$', '%', '&', Char.ofNat 39, '*', '+', '-', '.', '^', '_', Char.ofNat 0x60, '|', '~']

/-- Whether a character may stand in a header name. -/
def isHeaderChar (c : Char) : Bool := c.isAlphanum || headerMarks.contains c

/-- Whether a text is a header name: one to 65535 letters, digits and marks. -/
def isHeaderName (s : String) : Bool :=
  let cs := s.toList
  cs ≠ [] && cs.length ≤ 65535 && cs.all isHeaderChar

/-- An invalid setting, for a reason that quotes its value. -/
def refuse (key value reason : String) : Except SettingsError Unit :=
  .error (.invalid key ("'" ++ value ++ "' " ++ reason))

/-- Whether the settings can be used, or the first that cannot. -/
def check (s : Settings) : Except SettingsError Unit := do
  if !isHeaderName s.tenantHeader then
    refuse "tenant_header" s.tenantHeader "is not a valid header name"
  if !isHeaderName s.impersonationHeader then
    refuse "impersonation_header" s.impersonationHeader "is not a valid header name"
  if let some t := s.defaultTenant then
    if !TenantId.isValidText t then refuse "default_tenant_id" t "is not a valid tenant id"
  if s.memoCapacity = 0 then
    .error (.invalid "validation_cache_capacity" "must be greater than zero")
  if !TenantId.isValidText s.fallbackSchema then
    refuse "search_path_fallback_schema" s.fallbackSchema "is not a valid schema name"

/-- The fields of settings in data; each has a default. -/
def fields : List Json.Field :=
  [⟨"tenant_header", .text, .defaulted⟩, ⟨"enable_subdomain_routing", .flag, .defaulted⟩,
    ⟨"default_tenant_id", .textOrNull, .defaulted⟩, ⟨"impersonation_header", .text, .defaulted⟩,
    ⟨"strict_mode", .flag, .defaulted⟩, ⟨"listings_include_unscoped", .flag, .defaulted⟩,
    ⟨"validation_cache_capacity", .word, .defaulted⟩,
    ⟨"search_path_fallback_schema", .text, .defaulted⟩]

/-- Settings from the members that are set; what is not set has its default. -/
def ofMembers? (m : Json.Members) : Option Settings := do
  let d := default
  let tenantHeader ← Json.Members.orDefault? m "tenant_header" d.tenantHeader Json.asText?
  let subdomainRouting ←
    Json.Members.orDefault? m "enable_subdomain_routing" d.subdomainRouting Json.asBool?
  let defaultTenant ← Json.Members.optional? m "default_tenant_id" Json.asText?
  let impersonationHeader ←
    Json.Members.orDefault? m "impersonation_header" d.impersonationHeader Json.asText?
  let strict ← Json.Members.orDefault? m "strict_mode" d.strict Json.asBool?
  let listUnscoped ←
    Json.Members.orDefault? m "listings_include_unscoped" d.listUnscoped Json.asBool?
  let memoCapacity ←
    Json.Members.orDefault? m "validation_cache_capacity" d.memoCapacity Json.asWord?
  let fallbackSchema ←
    Json.Members.orDefault? m "search_path_fallback_schema" d.fallbackSchema Json.asText?
  return ⟨tenantHeader, subdomainRouting, defaultTenant, impersonationHeader, strict, listUnscoped,
    memoCapacity, fallbackSchema⟩

/-- Settings from data, not checked. -/
def ofJson? (j : Json) : Option Settings := (Json.recordOf? fields j).bind ofMembers?

/-- Settings as data, all of them. -/
def toJson (s : Settings) : Json :=
  .ofPairs [("tenant_header", .text s.tenantHeader),
    ("enable_subdomain_routing", .bool s.subdomainRouting),
    ("default_tenant_id", .ofText? s.defaultTenant),
    ("impersonation_header", .text s.impersonationHeader), ("strict_mode", .bool s.strict),
    ("listings_include_unscoped", .bool s.listUnscoped),
    ("validation_cache_capacity", .ofNat s.memoCapacity),
    ("search_path_fallback_schema", .text s.fallbackSchema)]

end Settings

end Tenancy
