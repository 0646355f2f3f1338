import Tenancy.Cache
import Tenancy.Gate
import Tenancy.Http.Response
import Tenancy.Registry
import Tenancy.Resolution

/-!
# The service and its state

A service is set up once; what its requests change is a memo of checked ids, the directory of
registered tenants and a cache. A step sees all of the state, but the parts that registry and memo
touch are named by `onDirectory` and `onMemo`, so that a step's footprint can be read off its text.
-/

set_option autoImplicit false

namespace Tenancy.Http

/-- What a service is set up with. -/
structure Service where
  settings : Settings
  policy : Policy
  inventory : Inventory
  /-- The reason why the registry cannot be reached, if it cannot. -/
  registryFault : Option String

/-- What requests change. -/
structure State where
  memo : TenantId.Memo
  directory : Registry.Directory
  cache : Cache
  deriving Repr

/-- Steps of the service. -/
abbrev Step := StateT State Logged

/-- Steps that may end early in a response. -/
abbrev Handler := ExceptT Response Step

/-- A step that may fail, the failure being the response. -/
def attempt {α : Type} (x : ExceptT Error Step α) : Handler α := do
  match ← (x.run : Step (Except Error α)) with
  | .ok a => return a
  | .error e => throw (.ofError e)

/-- The response, early or not. -/
def settle (x : Handler Response) : Step Response := do
  match ← (x.run : Step (Except Response Response)) with
  | .ok response => return response
  | .error response => return response

/-- A step over the directory alone. -/
def onDirectory {α : Type} (x : ExceptT Error (StateT Registry.Directory Logged) α) :
    ExceptT Error Step α := fun st => do
  let (r, directory) ← x.run st.directory
  return (r, { st with directory })

/-- A step over the memo alone. -/
def onMemo {α : Type} (x : StateT TenantId.Memo Logged α) : Step α := fun st => do
  let (a, memo) ← x st.memo
  return (a, { st with memo })

namespace Service

/-- The state of a service that has served nothing yet. -/
def start (s : Service) (directory : Registry.Directory) (cache : Cache) : State :=
  ⟨.empty s.settings.memoCapacity, directory, cache⟩

/-- The gate in front of the service's resources. -/
def gate (s : Service) : Gate := ⟨s.policy, s.settings.listUnscoped⟩

/-- The registry at a moment. -/
def registry (s : Service) (now : Instant) :
    Registry (ExceptT Error (StateT Registry.Directory Logged)) :=
  match s.registryFault with
  | some reason => Registry.unreachable reason
  | none => Registry.inMemory now

end Service

end Tenancy.Http
