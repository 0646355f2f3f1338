import Tenancy.Sql
import Tenancy.TenantId

/-!
# Search paths

A tenant's connections look for tables in the tenant's schema first and in a shared one behind it.
The search path names the two, a comma between them. A name of small letters, digits and underscores
stands for itself; any other is written between double quotes, so that its letters keep their case
and nothing in it can end it.
-/

set_option autoImplicit false

namespace Tenancy.Schema

/-- Whether a character may stand in a name without quotes. -/
def isBare (c : Char) : Bool := c.isLower || c.isDigit || c == '_'

/-- A schema's name in a search path. -/
def nameChars (cs : List Char) : List Char :=
  if cs.all isBare then cs else Sql.quotedChars cs

/-- The characters of the search path of two schemas. -/
def searchPathChars (schema fallback : List Char) : List Char :=
  nameChars schema ++ ',' :: nameChars fallback

/-- The search path of a schema and the one behind it. -/
def searchPath (schema fallback : String) : String :=
  String.ofList (searchPathChars schema.toList fallback.toList)

/-- The schema of a tenant: the one that is given, unless it is empty, or one named like the
tenant. -/
def ofTenant (tenant : TenantId) (given : Option String) : String :=
  match given with
  | some s => if s = "" then tenant.text else s
  | none => tenant.text

end Tenancy.Schema
