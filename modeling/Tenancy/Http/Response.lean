import Tenancy.Error
import Tenancy.Json.Basic

/-!
# Responses

A response is JSON, plain text, or a bare status. What succeeds has its data under `data`, a list
with its count beside it; what fails has a code and a message under `error`, and a denial names the
resource that was denied.
-/

set_option autoImplicit false

namespace Tenancy.Http

/-- The contents of a response. -/
inductive Body where
  | json (value : Json)
  | text (value : String)
  deriving Repr

/-- A response. -/
structure Response where
  status : Nat
  contentType : Option String
  allow : Option String
  body : Body
  deriving Repr

namespace Response

/-- A response in JSON. -/
def json (status : Nat) (value : Json) : Response :=
  ⟨status, some "application/json", none, .json value⟩

/-- A response in plain text. -/
def text (status : Nat) (value : String) : Response :=
  ⟨status, some "text/plain; charset=utf-8", none, .text value⟩

/-- A status without contents. -/
def bare (status : Nat) : Response := ⟨status, none, none, .text ""⟩

/-- The response with the methods that its path answers. -/
def allowing (r : Response) (methods : List String) : Response :=
  { r with allow := some (",".intercalate methods) }

/-- The response without its contents. -/
def withoutBody (r : Response) : Response := { r with body := .text "" }

/-- One thing. -/
def one (status : Nat) (data : Json) : Response := json status (.ofPairs [("data", data)])

/-- A list of things. -/
def many (items : List Json) : Response :=
  json 200 (.ofPairs [("data", .array items),
    ("meta", .ofPairs [("count", .ofNat items.length)])])

/-! ## Failures -/

/-- The status and the code of a failure. -/
def statusOf : Error → Nat × String
  | .settings _ => (500, "config_error")
  | .notFound _ => (404, "not_found")
  | .validation _ => (422, "validation_error")
  | .database .rowNotFound => (404, "not_found")
  | .database _ => (500, "database_error")
  | .conflict _ => (409, "conflict")
  | .badRequest _ => (400, "bad_request")
  | .accessDenied _ _ => (403, "tenant_access_denied")
  | .forbidden _ => (403, "forbidden")
  | .internal _ => (500, "internal_error")

/-- What a failure is about, where that is told. -/
def detailsOf : Error → List (String × Json)
  | .accessDenied kind id =>
    [("details", .ofPairs [("resource_kind", .text kind.name), ("resource_id", .text id)])]
  | _ => []

/-- The response to a failure. -/
def ofError (e : Error) : Response :=
  let (status, code) := statusOf e
  json status (.ofPairs [("error", .ofPairs
    ([("code", .text code), ("message", .text e.message)] ++ detailsOf e))])

end Response

end Tenancy.Http
