import Tenancy.Catalog
import Tenancy.Policy

/-!
# The tenant gate

In front of the base policy stands the tenant check.

| tenant in scope | label of the resource | outcome |
|---|---|---|
| none | any | the base policy decides |
| X | none | the base policy decides |
| X | X | the base policy decides |
| X | another than X | denied, and the base policy is not asked |

What holds of the resource must hold of everything it belongs to. Where tenancy is strict, a caller
without a tenant who is no administrator is denied outright. Listings are filtered where the rows
are stored instead, and then each row is put to the base policy.
-/

set_option autoImplicit false

namespace Tenancy

/-- What the tenant check says of a resource. -/
inductive Decision where
  | notApplicable
  | allow
  | deny
  deriving DecidableEq, Repr

/-- The name of a decision. -/
def Decision.name : Decision → String
  | .notApplicable => "NotApplicable"
  | .allow => "Allow"
  | .deny => "Deny"

/-- The check of one resource by itself. -/
def facetCheck (scope : Scope) (f : Facet) : Decision :=
  if scope.deniesUnscopedCaller then .deny
  else match scope.tenant with
    | none => .notApplicable
    | some tenant =>
      match f.label with
      | some (some label) => if label = tenant then .allow else .deny
      | _ => .allow

/-- The check of a resource and of all it belongs to: a denial anywhere is a denial. -/
def tenantCheck (scope : Scope) : Resource → Decision
  | .free f => facetCheck scope f
  | .under f owner =>
    match facetCheck scope f with
    | .allow => if tenantCheck scope owner = .deny then .deny else .allow
    | decision => decision

/-- The gate: a base policy, and whether listings include rows that belong to no tenant. -/
structure Gate where
  policy : Policy
  listUnscoped : Bool

namespace Gate

variable {m : Type → Type} [Monad m]

/-- Whether a caller may access a resource, the base policy being whatever `ask` is; it is asked
once, or not at all when the tenant check denies. -/
def consult [Logging m] (ask : Scope → Resource → m Bool) (scope : Scope) (r : Resource) :
    m Bool :=
  match tenantCheck scope r with
  | .deny => do
    note (.accessDenied r.item.kind r.item.id)
    return false
  | _ => ask scope r

/-- Whether a caller may access a resource. -/
def canAccess [Logging m] (gate : Gate) (scope : Scope) (r : Resource) : m Bool :=
  consult (fun scope r => pure (gate.policy.canAccess scope r)) scope r

/-- Nothing, if a caller may access a resource; otherwise the reason why not. -/
def raise [Logging m] [MonadExceptOf Error m] (gate : Gate) (scope : Scope) (r : Resource) :
    m Unit :=
  match tenantCheck scope r with
  | .deny => do
    note (.accessRefused r.item.kind r.item.id scope.tenantName)
    throw (.accessDenied r.item.kind r.item.id)
  | _ =>
    match gate.policy.raise scope r with
    | .ok () => pure ()
    | .error e => throw e

/-- Those of a database's data sources, by name, that a caller may access. -/
def datasources (gate : Gate) (scope : Scope) (database : Database) (names : List String) :
    List String :=
  match tenantCheck scope (resource database) with
  | .deny => []
  | _ => gate.policy.datasources scope database names

/-- The filter of a listing: none without a tenant, and none for a table without labels. -/
def listFilter (gate : Gate) (scope : Scope) (table : Table) : Option Filter :=
  scope.tenant.bind fun tenant => Filter.of? table tenant gate.listUnscoped

/-- The rows that the base policy lets a caller see. -/
def keep (gate : Gate) (scope : Scope) (rows : List OwnedRow) : List OwnedRow :=
  rows.filter fun r => gate.policy.canAccess scope (resource r)

/-- The rows of a table that a caller may see in bulk. -/
def listAccessible (gate : Gate) (scope : Scope) (catalog : Catalog m) (table : Table) :
    m (List OwnedRow) :=
  if scope.deniesUnscopedCaller then pure []
  else return gate.keep scope (← catalog.list table (gate.listFilter scope table))

/-- The row of a table with an id, if a caller may access it. -/
def getAccessible [Logging m] [MonadExceptOf Error m] (gate : Gate) (scope : Scope)
    (catalog : Catalog m) (table : Table) (id : String) : m OwnedRow := do
  match ← catalog.get? table id with
  | none => throw (.resourceNotFound table.kind id)
  | some r =>
    gate.raise scope (resource r)
    return r

end Gate

end Tenancy
