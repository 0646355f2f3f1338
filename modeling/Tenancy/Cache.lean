import Tenancy.Cache.Key
import Tenancy.Error
import Tenancy.Json.Basic

/-!
# Cached values by tenant

A cache holds values by key, and callers reach it only through keys inside their own name space. A
tenant's values are dropped together in two steps: the keys that begin with the tenant's name space
are collected, and then each of them is deleted. Not every cache can enumerate its keys; one that
cannot is left as it is, and a warning says so.
-/

set_option autoImplicit false

namespace Tenancy

/-- Values by key. -/
abbrev Entries := List (String × Json)

namespace Entries

/-- The value of a key. -/
def get? (es : Entries) (key : String) : Option Json := es.lookup key

/-- The entries without a key. -/
def erase (es : Entries) (key : String) : Entries := es.filter fun e => e.1 ≠ key

/-- The entries with a key set to a value. -/
def insert (es : Entries) (key : String) (value : Json) : Entries := (key, value) :: es.erase key

/-- The keys that begin with a text. -/
def keysIn (es : Entries) (space : String) : List String :=
  (es.map Prod.fst).filter fun k => space.toList.isPrefixOf k.toList

/-- The entries without any of some keys, deleted one after the other. -/
def eraseAll (es : Entries) (keys : List String) : Entries := keys.foldl erase es

theorem get?_insert_self (es : Entries) (key : String) (value : Json) :
    (es.insert key value).get? key = some value := by
  simp [get?, insert]

end Entries

/-- What a cache is able to do. -/
inductive Cache.Ability where
  /-- Everything: its keys can be enumerated. -/
  | enumerable
  /-- Single keys only. -/
  | plain
  /-- Nothing; every call fails for the reason given. -/
  | failing (reason : String)
  deriving DecidableEq, Repr

/-- A cache with its contents. -/
structure Cache where
  ability : Cache.Ability
  entries : Entries
  deriving Repr

namespace Cache

variable {m : Type → Type} [Monad m] [MonadExceptOf Error m]

/-- A cache without contents. -/
def empty (ability : Ability) : Cache := ⟨ability, []⟩

/-- An answer, unless the cache fails. -/
def guarded {α : Type} (c : Cache) (answer : α) : m α :=
  match c.ability with
  | .failing reason => throw (.internal reason)
  | _ => pure answer

/-- The value of a key. -/
def fetch (c : Cache) (key : String) : m (Option Json) := c.guarded (c.entries.get? key)

/-- The cache with a key set to a value. -/
def store (c : Cache) (key : String) (value : Json) : m Cache :=
  c.guarded { c with entries := c.entries.insert key value }

/-- The cache without a key. -/
def discard (c : Cache) (key : String) : m Cache :=
  c.guarded { c with entries := c.entries.erase key }

/-! ## By tenant -/

/-- The value of a base key for a scope. -/
def get? (c : Cache) (scope : Scope) (base : String) : m (Option Json) :=
  c.fetch (scopedKey scope base none)

/-- The cache with a base key set to a value for a scope. -/
def insert (c : Cache) (scope : Scope) (base : String) (value : Json) : m Cache :=
  c.store (scopedKey scope base none) value

/-- The cache without a base key for a scope. -/
def erase (c : Cache) (scope : Scope) (base : String) : m Cache :=
  c.discard (scopedKey scope base none)

/-- The cache without the values of a tenant, and how many there were. -/
def invalidate [Logging m] (c : Cache) (tenant : TenantId) : m (Nat × Cache) :=
  match c.ability with
  | .plain => do
    note (.cacheNotInvalidated tenant)
    return (0, c)
  | .failing reason => throw (.internal reason)
  | .enumerable => do
    let keys := c.entries.keysIn (keySpace tenant)
    note (.cacheCleared tenant keys.length)
    return (keys.length, { c with entries := c.entries.eraseAll keys })

end Cache

end Tenancy
