import Tenancy.Context
import Tenancy.Http.Target
import Tenancy.Principal
import Tenancy.Settings
import Tenancy.Signals

/-!
# Requests

A request as the service gets it, after authentication: the principal is known or there is none. A
context may be on it already; that is how the outcome of resolution travels from the layer that
resolves to whoever asks later. `readable` bounds how much of the body may be read.

Header names are compared without regard to letter case and the first header of a name counts; a
value with other than visible ASCII characters, spaces and tabs is as if it were not there.

Header values and the body are texts: of the octets that a client may send, those of a body that is
not UTF-8 cannot be said here, and opaque octets in a header's value only as characters that make it
unreadable.
-/

set_option autoImplicit false

namespace Tenancy.Http

/-- A request, its body and its header values read as texts. -/
structure Request where
  method : String
  target : Target
  headers : List (String × String)
  body : String
  principal : Option Principal
  context : Option Context
  readable : Nat
  deriving Repr

namespace Request

/-- Whether two header names are the same. -/
def sameName (a b : String) : Bool :=
  a.toList.map Char.toLower == b.toList.map Char.toLower

theorem sameName_iff {a b : String} :
    sameName a b = true ↔ a.toList.map Char.toLower = b.toList.map Char.toLower := beq_iff_eq

/-- Whether a header's value can be read. -/
def isReadable (value : String) : Bool :=
  value.toList.all fun c => (0x20 ≤ c.toNat && c.toNat ≤ 0x7E) || c == '\t'

/-- The value of a header, if it can be read. What is no header name names no header. -/
def header? (r : Request) (name : String) : Option String :=
  if Settings.isHeaderName name then
    match r.headers.find? fun h => sameName h.1 name with
    | some (_, value) => if isReadable value then some value else none
    | none => none
  else none

/-- The host that the request was sent to: by its header, or else by its target. -/
def host? (r : Request) : Option String := r.header? "host" <|> r.target.host?

/-- What the request says about its tenant. -/
def signals (settings : Settings) (r : Request) : Signals where
  host := r.host?
  tenantHeader := r.header? settings.tenantHeader
  impersonationHeader := r.header? settings.impersonationHeader

/-- The request's path as text. -/
def path (r : Request) : String := String.ofList r.target.path

end Request

end Tenancy.Http
