import Tenancy.Registry.Directory
import Tenancy.TenantId.Memo

/-!
# Registries of tenants

What a registry does, wherever its records are kept: `Registry m` lists its operations, and the
directory in memory is one. Whether a tenant may be served is a question of two parts, a valid id
and an active record, and an invalid id is never looked up.
-/

set_option autoImplicit false

namespace Tenancy

/-- The operations of a registry. -/
structure Registry (m : Type → Type) where
  get? : String → m (Option Registry.Record)
  list : Bool → m (List Registry.Record)
  create : Registry.NewTenant → Option Int → m Registry.Record
  deactivate : String → Option Int → m Registry.Record
  isActive : String → m Bool
  ping : m Unit

namespace Registry

/-- Whether an id is valid, through a memo, and its tenant is registered and active. -/
def isServed {m : Type → Type} [Monad m] (registry : Registry m) (memo : TenantId.Memo)
    (id : String) : m (Bool × TenantId.Memo) := do
  let (valid, memo) := memo.check id
  if valid then return (← registry.isActive id, memo) else return (false, memo)

/-- A change of the directory that may fail, as a step over a directory that is kept as it was on
failure. -/
def Directory.step {m : Type → Type} [Monad m] {α : Type}
    (change : Directory → Except Error (α × Directory)) :
    ExceptT Error (StateT Directory m) α := fun d =>
  match change d with
  | .ok (a, d) => pure (.ok a, d)
  | .error e => pure (.error e, d)

/-- The registry in memory, at a moment. -/
def inMemory {m : Type → Type} [Monad m] (now : Instant) :
    Registry (ExceptT Error (StateT Directory m)) where
  get? id := Directory.step fun d => .ok (d.get? id, d)
  list activeOnly := Directory.step fun d => .ok (d.list activeOnly, d)
  create t actor := Directory.step fun d => d.create t actor now
  deactivate id actor := Directory.step fun d => d.deactivate id actor now
  isActive id := Directory.step fun d => .ok (d.isActive id, d)
  ping := pure ()

/-- A registry that cannot be reached: every operation fails for the same reason. -/
def unreachable {m : Type → Type} [Monad m] [MonadExceptOf Error m] (reason : String) :
    Registry m where
  get? _ := throw (.internal reason)
  list _ := throw (.internal reason)
  create _ _ := throw (.internal reason)
  deactivate _ _ := throw (.internal reason)
  isActive _ := throw (.internal reason)
  ping := throw (.internal reason)

end Registry

end Tenancy
