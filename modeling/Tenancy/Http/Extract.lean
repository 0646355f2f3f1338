import Tenancy.Http.MediaType
import Tenancy.Http.Request
import Tenancy.Http.Service
import Tenancy.Json.Reader
import Tenancy.Text.Form

/-!
# What handlers take from a request

A context, a scope, a parameter of the path, a flag of the query, a record from the body: each is
there and well formed, or the request ends in a response that says what is not. Taking something
changes nothing; only the scope may leave a warning.
-/

set_option autoImplicit false

namespace Tenancy.Http

namespace Service

/-- The context that is on the request. -/
def context (r : Request) : Handler Context :=
  match r.context with
  | some c => return c
  | none =>
    throw (.ofError (.internal "tenant context missing; resolve_tenant layer not installed"))

/-- The scope of the request. -/
def scope (s : Service) (r : Request) : Handler Scope := do
  let c ← context r
  let scope ← (Scope.of c r.principal).withImpersonation (r.header? s.settings.impersonationHeader)
  return scope.withStrict s.settings.strict

/-- A parameter of the path as text. -/
def parameter (name : String) (raw : List Char) : Handler String :=
  match Text.Percent.decodeText raw with
  | .ok cs => return String.ofList cs
  | .error _ => throw (.text 400 ("Invalid URL: Invalid UTF-8 in `" ++ name ++ "`"))

/-- The query cannot be read. -/
def badQuery : Response := .text 400 "Failed to deserialize query string"

/-- Whether only active tenants are asked for: said once at most, and by `true` or `false`. -/
def activeOnly (r : Request) : Handler Bool :=
  let pairs := (Text.Form.pairs (r.target.query.getD [])).map fun (k, v) =>
    (String.ofList k, String.ofList v)
  match (pairs.filter fun p => p.1 == "active_only").map Prod.snd with
  | [] => return false
  | ["true"] => return true
  | ["false"] => return false
  | _ => throw badQuery

/-- Whether the body is said to be JSON. -/
def saysJson (r : Request) : Bool :=
  ((r.header? "content-type").bind fun v => MediaType.parse v.toList).any MediaType.isJson

/-- The tenant to be registered, from the body. -/
def newTenant (r : Request) : Handler Registry.NewTenant := do
  if !saysJson r then
    throw (.text 415 "Expected request with `Content-Type: application/json`")
  if r.readable < r.body.utf8ByteSize then
    throw (.text 413 "Failed to buffer the request body")
  match Json.readRecord Registry.NewTenant.fields (Json.tokens r.body.toList) with
  | .error .malformed => throw (.text 400 "Failed to parse the request body as JSON")
  | .error .mismatch => throw wrongShape
  | .ok (m, _) =>
    match Registry.NewTenant.ofMembers? m with
    | some t => return t
    | none => throw wrongShape
where
  wrongShape : Response := .text 422 "Failed to deserialize the JSON body into the target type"

end Service

end Tenancy.Http
