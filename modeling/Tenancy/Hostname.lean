import Tenancy.Net.Address
import Tenancy.Text.Blank
import Tenancy.Text.LowerCase

/-!
# The tenant's label in a host name

The first of three or more labels of a host name can name a tenant. White space around the host and
a port behind it do not count, an IP address has no labels, and a few labels are reserved for the
service itself. The label is answered in lower case; whether it is a valid id is not asked here.
-/

set_option autoImplicit false

namespace Tenancy.Hostname

open Text

/-- Labels that never name a tenant. -/
def reserved : List String := ["www", "api", "admin", "static", "cdn"]

/-- The host without a port: what follows the last colon, if it is digits only or nothing. What
begins with a bracket is left alone. -/
def withoutPort (cs : List Char) : List Char :=
  if cs.head? = some '[' then cs
  else match cutLast ':' cs with
    | some (name, port) => if port.all Char.isDigit then name else cs
    | none => cs

/-- The first label in lower case, if it may name a tenant. -/
def label? (first : List Char) : Option String :=
  let label := String.ofList (lowerChars first)
  if label = "" || reserved.contains label then none else some label

/-- The label of a host without a port that may name a tenant. -/
def subdomainOf? (cs : List Char) : Option String :=
  if Net.isAddress cs then none
  else match pieces '.' cs with
    | first :: _ :: _ :: _ => label? first
    | _ => none

/-- The label of a host that may name a tenant. -/
def subdomain? (host : String) : Option String :=
  subdomainOf? (withoutPort (trimChars host.toList))

end Tenancy.Hostname
