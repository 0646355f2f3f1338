import Tenancy.Text.Split

/-!
# Routes

Which paths there are, and which methods they answer. A path is matched segment by segment as it was
sent; a parameter is one segment, which must not be empty at the end of a path, and is decoded only
by whoever reads it. A path that can be read can be asked for its head, too.
-/

set_option autoImplicit false

namespace Tenancy.Http

/-- A known path, with its parameters as they were sent. -/
inductive Route where
  | health
  | ready
  | version
  | currentTenant
  | tenants
  | tenant (id : List Char)
  | tenantCache (id : List Char)
  | resources (kind : List Char)
  | resource (kind id : List Char)
  deriving DecidableEq, Repr

/-- What is asked of a known path. -/
inductive Endpoint where
  | health
  | ready
  | version
  | currentTenant
  | listTenants
  | createTenant
  | getTenant (id : List Char)
  | deactivateTenant (id : List Char)
  | invalidateCache (id : List Char)
  | listResources (kind : List Char)
  | readResource (kind id : List Char)
  deriving DecidableEq, Repr

namespace Route

/-- The route of the segments of a path. -/
def ofSegments? : List String → Option Route
  | ["health"] => some .health
  | ["ready"] => some .ready
  | ["version"] => some .version
  | ["tenant", "current"] => some .currentTenant
  | ["tenants"] => some .tenants
  | ["tenants", id] => if id = "" then none else some (.tenant id.toList)
  | ["tenants", id, "cache"] => some (.tenantCache id.toList)
  | ["resources", kind] => if kind = "" then none else some (.resources kind.toList)
  | ["resources", kind, id] =>
    if id = "" then none else some (.resource kind.toList id.toList)
  | _ => none

/-- The route of a path. -/
def ofPath? : List Char → Option Route
  | '/' :: rest => ofSegments? ((Text.pieces '/' rest).map String.ofList)
  | _ => none

/-- The methods that a route answers besides `HEAD`, and what each asks. -/
def endpoints : Route → List (String × Endpoint)
  | .health => [("GET", .health)]
  | .ready => [("GET", .ready)]
  | .version => [("GET", .version)]
  | .currentTenant => [("GET", .currentTenant)]
  | .tenants => [("GET", .listTenants), ("POST", .createTenant)]
  | .tenant id => [("GET", .getTenant id), ("DELETE", .deactivateTenant id)]
  | .tenantCache id => [("DELETE", .invalidateCache id)]
  | .resources kind => [("GET", .listResources kind)]
  | .resource kind id => [("GET", .readResource kind id)]

/-- The methods that a route answers. -/
def methods (r : Route) : List String :=
  r.endpoints.flatMap fun e => if e.1 == "GET" then ["GET", "HEAD"] else [e.1]

/-- What a method asks of a route. The head of a thing is asked for like the thing. -/
def endpoint? (r : Route) (method : String) : Option Endpoint :=
  r.endpoints.lookup (if method == "HEAD" then "GET" else method)

end Route

end Tenancy.Http
