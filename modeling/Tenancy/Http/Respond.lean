import Tenancy.Http.Endpoints
import Tenancy.Http.Layer

/-!
# From a request to its response

The path and the method decide who answers, and the layers stand in front of every answer, a refusal
of the path or of the method included. What the method implies for the response comes last: a
refusal names the methods that the path does answer, and a head has no body, whoever made the
response.
-/

set_option autoImplicit false

namespace Tenancy.Http

namespace Service

/-- The response to a request behind some layers. -/
def respondThrough (s : Service) (layer : Layer Step) (now : Instant) (r : Request) :
    Step Response :=
  match Route.ofPath? r.target.path with
  | none => layer (fun _ => pure (.bare 404)) r
  | some route =>
    match route.endpoint? r.method with
    | none => do
      let response ← layer (fun _ => pure (.bare 405)) r
      return response.allowing route.methods
    | some e => do
      let response ← layer (fun r => settle (s.handle now e r)) r
      return if r.method == "HEAD" then response.withoutBody else response

/-- The layers of the service: the body is bounded before the tenant is resolved. -/
def layers (s : Service) (now : Instant) : Layer Step := fun inner =>
  limitBody bodyLimit
    (resolveTenant s.settings
      (fun signals principal => onMemo (Resolution.resolve s.settings now signals principal))
      inner)

/-- The response of the service. -/
def respond (s : Service) (now : Instant) (r : Request) : Step Response :=
  s.respondThrough (s.layers now) now r

/-- The response of the service without its layers. -/
def respondBare (s : Service) (now : Instant) (r : Request) : Step Response :=
  s.respondThrough (fun inner => inner) now r

end Service

end Tenancy.Http
