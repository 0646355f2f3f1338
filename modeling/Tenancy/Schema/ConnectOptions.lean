import Tenancy.Logged
import Tenancy.Schema.ConnectionUri
import Tenancy.Text.Escaped
import Tenancy.Text.LowerCase
import Tenancy.Text.Natural

/-!
# Connect options of tenants

A pool connects with options that are read from the base URI: host, port, database and startup
options, first from the parts of the locator and then from the parameters of its query, in order, a
later one replacing an earlier one. Startup options add up instead. The tenant's search path is one
more startup option behind them all.
-/

set_option autoImplicit false

namespace Tenancy.Schema

open Net Text

/-- How to connect to a database. -/
structure ConnectOptions where
  host : String
  port : Nat
  database : Option String
  options : Option String
  deriving DecidableEq, Repr

namespace ConnectOptions

/-- The options where nothing is said. The variables `PGHOST`, `PGPORT`, `PGOPTIONS` and those like
them, which would fill in here, are taken as unset. -/
def default : ConnectOptions := ⟨"localhost", 5432, none, none⟩

/-- One more startup setting, a blank in front unless it is the first. -/
def withSetting (o : ConnectOptions) (name value : String) : ConnectOptions :=
  let before := o.options.getD ""
  let gap := if before = "" then "" else " "
  { o with options := some (before ++ gap ++ "-c " ++ name ++ "=" ++ value) }

/-- More startup options as they are, a blank in front of them if there are any. -/
def withOptions (o : ConnectOptions) (text : String) : ConnectOptions :=
  { o with options := some (match o.options with
      | some before => before ++ " " ++ text
      | none => text) }

/-- A host; a path of a socket is none. -/
def withHost (o : ConnectOptions) (host : String) : ConnectOptions :=
  if host.toList.head? = some '/' then o else { o with host }

/-- The words for how a connection is secured. -/
def securityWords : List String :=
  ["disable", "allow", "prefer", "require", "verify-ca", "verify-full"]

/-- What is wrong with a base URI, in words. -/
def misconfigured (reason : String) : String := "error with configuration: " ++ reason

/-- A number that a parameter spells. -/
def numberOf (bound : Nat) (value : String) : Except String Nat :=
  (Natural.parse bound value).mapError fun f => misconfigured f.message

/-- The name of the setting in a parameter `options[name]`. -/
def settingName? (key : List Char) : Option String :=
  let opening := "options[".toList
  if opening.isPrefixOf key ∧ key.getLast? = some ']' ∧ opening.length < key.length then
    some (String.ofList (key.drop opening.length).dropLast)
  else none

/-- The options with one parameter of the query read. -/
def withParameter (o : ConnectOptions) (key value : String) : Except String ConnectOptions :=
  match key with
  | "sslmode" | "ssl-mode" =>
    if securityWords.contains (lowerAscii value) then .ok o
    else .error (misconfigured (misconfigured
      ("unknown value " ++ inQuotes value ++ " for `ssl_mode`")))
  | "statement-cache-capacity" => (numberOf Natural.max64 value).map fun _ => o
  | "host" => .ok (o.withHost value)
  | "hostaddr" =>
    if isAddress value.toList then .ok { o with host := value }
    else .error (misconfigured "invalid IP address syntax")
  | "port" => (numberOf Natural.max16 value).map fun port => { o with port }
  | "dbname" => .ok { o with database := some value }
  | "options" => .ok (o.withOptions value)
  | _ =>
    match settingName? key.toList with
    | some name => .ok (o.withSetting name value)
    | none => .ok o

/-- A part of the locator read as text. -/
def decoded (part : List Char) : Except String String :=
  match Percent.decodeText part with
  | .ok cs => .ok (String.ofList cs)
  | .error fault => .error (misconfigured fault.message)

/-- The options that the host says: nothing if it is empty. A host whose decoded form begins with a
slash is a socket. -/
def ofHost (o : ConnectOptions) (host : List Char) : Except String ConnectOptions :=
  if host = [] then .ok o
  else if (Percent.decode host).head? = some 0x2F then (decoded host).map fun _ => o
  else .ok { o with host := String.ofList host }

/-- The options that the authority says. User and password are read as well, for their faults. -/
def ofAuthority (o : ConnectOptions) : Option Authority → Except String ConnectOptions
  | none => .ok o
  | some a => do
    let o ← o.ofHost a.host
    let o := { o with port := a.port.getD o.port }
    discard (decoded a.username)
    discard (decoded (a.password.getD []))
    return o

/-- The options that a locator says. -/
def ofUrl (url : Url) : Except String ConnectOptions := do
  let o ← default.ofAuthority url.authority
  let path := url.path.dropWhile (· == '/')
  let o ← if path = [] then pure o else do pure { o with database := some (← decoded path) }
  (Form.pairs (url.query.getD [])).foldlM
    (fun o (key, value) => o.withParameter (String.ofList key) (String.ofList value)) o

/-- The options that a base URI says. -/
def parse (base : String) : Except Error ConnectOptions :=
  match Url.parse base with
  | .error fault => .error (invalidUri (misconfigured fault.message))
  | .ok url => (ofUrl url).mapError invalidUri

/-- The options with the search path of a schema behind them. -/
def forTenant (o : ConnectOptions) (schema fallback : String) : ConnectOptions :=
  o.withSetting "search_path" (searchPath schema fallback)

end ConnectOptions

/-- A pool of connections that is set up and not yet connected. -/
structure Pool where
  options : ConnectOptions
  maxConnections : Nat
  deriving DecidableEq, Repr

/-- The pool of a tenant's connections. -/
def tenantPool {m : Type → Type} [Monad m] [Logging m] [MonadExceptOf Error m] (base : String)
    (tenant : TenantId) (given : Option String) (fallback : String) (maxConnections : Nat) :
    m Pool :=
  let schema := ofTenant tenant given
  match ConnectOptions.parse base with
  | .error e => throw e
  | .ok options => do
    note (.poolCreated tenant schema)
    return ⟨options.forTenant schema fallback, maxConnections⟩

end Tenancy.Schema

namespace Tenancy.Settings

/-- The pool of a tenant's connections, the schema behind the tenant's being the configured one. -/
def tenantPool {m : Type → Type} [Monad m] [Logging m] [MonadExceptOf Error m] (s : Settings)
    (base : String) (tenant : TenantId) (given : Option String) (maxConnections : Nat) :
    m Schema.Pool :=
  Schema.tenantPool base tenant given s.fallbackSchema maxConnections

end Tenancy.Settings
