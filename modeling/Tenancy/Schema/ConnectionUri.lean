import Tenancy.Error
import Tenancy.Net.Url.Parser
import Tenancy.Schema.SearchPath
import Tenancy.Settings
import Tenancy.Text.Form

/-!
# Connection URIs of tenants

The URI of a tenant's database is the base URI with one more startup option, which sets the search
path. It goes behind the value of the first parameter `options` of the query, or into a parameter of
its own where there is none; everything else of the base stays as it is, and so do bases of other
databases than Postgres.
-/

set_option autoImplicit false

namespace Tenancy.Schema

open Net Text

/-- Whether a scheme is one of Postgres. -/
def isPostgres (scheme : List Char) : Bool := "postgres".toList.isPrefixOf scheme

/-- The startup option that sets a search path. -/
def searchPathOption (path : List Char) : List Char := "-c search_path=".toList ++ path

/-- The name and equals sign that a parameter of options begins with. -/
def optionsKey : List Char := "options=".toList

/-- The value of a segment that literally is a parameter of options. -/
def optionsValue? (segment : List Char) : Option (List Char) :=
  if optionsKey.isPrefixOf segment then some (segment.drop optionsKey.length) else none

/-- A parameter of options: an encoded value behind the one there is. -/
def optionsSegment (existing encoded : List Char) : List Char :=
  optionsKey ++ (if existing = [] then encoded else existing ++ "%20".toList ++ encoded)

/-- The segments with an encoded option added to the first parameter of options, or at the end. -/
def addOption (encoded : List Char) : List (List Char) → List (List Char)
  | [] => [optionsSegment [] encoded]
  | s :: rest =>
    match optionsValue? s with
    | some existing => optionsSegment existing encoded :: rest
    | none => s :: addOption encoded rest

/-- The locator with a search path for its connections. -/
def pinned (url : Url) (path : List Char) : Url :=
  let encoded := Form.encodeComponent (searchPathOption path)
  let segments := addOption encoded (Form.segments (url.query.getD []))
  url.withQuery (['&'].intercalate segments)

/-- A URI that is none. -/
def invalidUri (reason : String) : Error := .badRequest ("invalid database uri: " ++ reason)

/-- The URI of a tenant's database. -/
def tenantUri (base : String) (tenant : TenantId) (given : Option String) (fallback : String) :
    Except Error String :=
  match Url.parse base with
  | .error fault => .error (invalidUri fault.message)
  | .ok url =>
    if isPostgres url.scheme then
      let path := searchPath (ofTenant tenant given) fallback
      .ok (pinned url path.toList).render
    else .ok base

end Tenancy.Schema

namespace Tenancy.Settings

/-- The URI of a tenant's database, the schema behind the tenant's being the configured one. -/
def tenantUri (s : Settings) (base : String) (tenant : TenantId) (given : Option String) :
    Except Error String :=
  Schema.tenantUri base tenant given s.fallbackSchema

end Tenancy.Settings
