import Tenancy.Json.Parser
import Tenancy.Json.Printer
import Tenancy.Json.Record
import Tenancy.Text.Blank

/-!
# Who is asking

A request comes with an authenticated principal or with none. A principal has a role, may belong to
a tenant directly, and may bring claims from which a tenant can be read: an object, or the text of
one. `Claims.hint` is that reading: the first listed claim that is there and not null, as text.
-/

set_option autoImplicit false

namespace Tenancy

/-- What a principal may do in general. -/
inductive Role where
  | admin
  | standard
  deriving DecidableEq, Repr

namespace Role

/-- The name of a role. -/
def name : Role → String
  | .admin => "admin"
  | .standard => "standard"

/-- The role of a name. -/
def ofName? : String → Option Role
  | "admin" => some .admin
  | "standard" => some .standard
  | _ => none

end Role

/-- Identity claims: an object, or a document that should hold one. -/
inductive Claims where
  | structured (members : Json.Members)
  | raw (document : String)
  deriving Repr, BEq

namespace Claims

/-- The claims that may name a tenant, the strongest first. -/
def tenantKeys : List String := ["tenant_id", "tenant", "org_id", "organization", "company_id"]

/-- The first listed claim that is there and not null. -/
def hintOf (members : Json.Members) : Option String :=
  tenantKeys.findSome? fun key => (Json.Members.get? members key).bind Json.plainText?

/-- The claims do not read as an object. -/
inductive Fault where
  | malformed
  deriving DecidableEq, Repr

/-- The tenant that the claims hint at, if any. -/
def hint : Claims → Except Fault (Option String)
  | .structured members => .ok (hintOf members)
  | .raw document =>
    match Json.parse document with
    | some (.object members) => .ok (hintOf members)
    | _ => .error .malformed

/-- Claims from data: an object is structured, a text is a document. -/
def ofJson? : Json → Option Claims
  | .object members => some (.structured members)
  | .text document => some (.raw document)
  | _ => none

/-- Claims as data. -/
def toJson : Claims → Json
  | .structured members => .object members
  | .raw document => .text document

end Claims

/-- The authenticated caller. -/
structure Principal where
  id : Option Int
  username : String
  role : Role
  tenantId : Option String
  claims : Option Claims
  deriving Repr, BEq

namespace Principal

/-- A principal of whom only name and role are known. -/
def plain (username : String) (role : Role) : Principal := ⟨none, username, role, none, none⟩

/-- The principal as a member of a tenant. -/
def withTenant (p : Principal) (tenant : String) : Principal := { p with tenantId := some tenant }

/-- The principal with claims. -/
def withClaims (p : Principal) (claims : Claims) : Principal := { p with claims := some claims }

/-- Whether the principal is an administrator. -/
def isAdmin (p : Principal) : Bool := p.role == .admin

/-- The tenant that the principal belongs to directly, white space around it taken off. -/
def directTenant? (p : Principal) : Option String := p.tenantId.bind Text.nonBlank?

/-- The fields of a principal in data. -/
def fields : List Json.Field :=
  [⟨"id", .any, .optional⟩, ⟨"username", .text, .required⟩, ⟨"role", .any, .required⟩,
    ⟨"tenant_id", .textOrNull, .defaulted⟩, ⟨"claims", .any, .defaulted⟩]

/-- A principal from data. -/
def ofJson? (j : Json) : Option Principal := do
  let m ← Json.recordOf? fields j
  let id ← Json.Members.optional? m "id" Json.asSigned?
  let username ← Json.Members.field? m "username" Json.asText?
  let role ← Json.Members.field? m "role" fun j => j.asName?.bind Role.ofName?
  let tenantId ← Json.Members.optional? m "tenant_id" Json.asText?
  let claims ← Json.Members.optional? m "claims" Claims.ofJson?
  return ⟨id, username, role, tenantId, claims⟩

/-- A principal as data. -/
def toJson (p : Principal) : Json :=
  .ofPairs [("id", .ofOption .ofInt p.id), ("username", .text p.username),
    ("role", .text p.role.name), ("tenant_id", .ofText? p.tenantId),
    ("claims", .ofOption Claims.toJson p.claims)]

end Principal

end Tenancy
