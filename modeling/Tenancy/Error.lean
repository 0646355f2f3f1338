import Tenancy.Kind

/-!
# What can go wrong

A failure is a value that says which kind of failure it is and what about. Its text is the text that
callers and logs see.
-/

set_option autoImplicit false

namespace Tenancy

/-- Why settings cannot be used: one of them is invalid, or they cannot be read at all. -/
inductive SettingsError where
  | invalid (key reason : String)
  | unreadable (reason : String)
  deriving DecidableEq, Repr

/-- The error in words. -/
def SettingsError.message : SettingsError → String
  | .invalid key reason => "invalid setting " ++ key ++ ": " ++ reason
  | .unreadable reason => "config load: " ++ reason

/-- A column of a reply, by its name or by its place. -/
inductive ColumnRef where
  | named (name : String)
  | at (index : Nat)
  deriving DecidableEq, Repr

/-- How a column is shown in messages. -/
def ColumnRef.text : ColumnRef → String
  | .named name => "\"" ++ name ++ "\""
  | .at index => toString index

/-- Why the database did not answer. -/
inductive DatabaseFault where
  | rowNotFound
  | poolTimedOut
  | poolClosed
  | protocol (reason : String)
  | refused (reason : String)
  | columnMissing (name : String)
  | columnOutOfBounds (length index : Nat)
  | undecodable (column : ColumnRef) (reason : String)
  deriving DecidableEq, Repr

/-- The fault in words. -/
def DatabaseFault.message : DatabaseFault → String
  | .rowNotFound => "no rows returned by a query that expected to return at least one row"
  | .poolTimedOut => "pool timed out while waiting for an open connection"
  | .poolClosed => "attempted to acquire a connection on a closed pool"
  | .protocol reason => "encountered unexpected or invalid data: " ++ reason
  | .refused reason => "error returned from database: " ++ reason
  | .columnMissing name => "no column found for name: " ++ name
  | .columnOutOfBounds length index =>
    "column index out of bounds: the len is " ++ toString length ++ ", but the index is " ++
      toString index
  | .undecodable column reason =>
    "error occurred while decoding column " ++ column.text ++ ": " ++ reason

/-- A failure of the library. -/
inductive Error where
  | settings (cause : SettingsError)
  | notFound (what : String)
  | validation (reason : String)
  | database (cause : DatabaseFault)
  | conflict (what : String)
  | badRequest (reason : String)
  | accessDenied (kind : Kind) (id : String)
  | forbidden (reason : String)
  | internal (reason : String)
  deriving DecidableEq, Repr

namespace Error

/-- The failure in words. A denial names the resource and never a tenant. -/
def message : Error → String
  | .settings cause => cause.message
  | .notFound what => "not found: " ++ what
  | .validation reason => "validation: " ++ reason
  | .database cause => "database: " ++ cause.message
  | .conflict what => "conflict: " ++ what
  | .badRequest reason => "bad request: " ++ reason
  | .accessDenied kind id =>
    "Access denied: " ++ kind.name ++ " " ++ id ++ " not accessible to the current tenant"
  | .forbidden reason => "forbidden: " ++ reason
  | .internal reason => "internal: " ++ reason

/-- No tenant of this id is registered. -/
def tenantNotFound (id : String) : Error := .notFound ("tenant not found: " ++ id)

/-- A tenant of this id is registered already. -/
def tenantExists (id : String) : Error := .conflict ("tenant already exists: " ++ id)

/-- No resource of this kind has the id. -/
def resourceNotFound (kind : Kind) (id : String) : Error := .notFound (kind.name ++ " " ++ id)

end Error

end Tenancy
