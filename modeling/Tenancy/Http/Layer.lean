import Tenancy.Http.Request
import Tenancy.Http.Response
import Tenancy.Logged
import Tenancy.Text.Natural

/-!
# Layers

A layer stands between a request and whoever answers it. One resolves the tenant and leaves a
context on the request, unless one is there already: the first context stays, however many layers
there are. The other bounds the body. Both hand everything else on as it came.
-/

set_option autoImplicit false

namespace Tenancy.Http

/-- What stands in front of an answer. -/
abbrev Layer (m : Type → Type) := (Request → m Response) → Request → m Response

variable {m : Type → Type} [Monad m]

/-- The layer that resolves the tenant of a request, unless a context is on it already. -/
def resolveTenant [Logging m] (settings : Settings)
    (resolve : Signals → Option Principal → m Context) : Layer m := fun inner r =>
  match r.context with
  | some _ => do
    note (.contextKept r.path)
    inner r
  | none => do
    let c ← resolve (r.signals settings) r.principal
    inner { r with context := some c }

/-- The most octets of a body. -/
def bodyLimit : Nat := 65536

/-- The most octets of a body that are read where no layer bounds it. -/
def outerBodyLimit : Nat := 2097152

/-- The length that the request says its body has. -/
def declaredLength? (r : Request) : Option Nat :=
  (r.header? "content-length").bind fun v => (Text.Natural.parse Text.Natural.max64 v).toOption

/-- The layer that bounds the body: a length that is too large is refused at once, and no more is
read than the length says. -/
def limitBody (limit : Nat) : Layer m := fun inner r =>
  match declaredLength? r with
  | some n =>
    if limit < n then pure (.text 413 "length limit exceeded")
    else inner { r with readable := min limit n }
  | none => inner { r with readable := limit }

end Tenancy.Http
