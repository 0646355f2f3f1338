import Tenancy.Filter
import Tenancy.Row

/-!
# Catalogs of resources

A catalog lists the rows of a table through a filter and finds a row by its id. `Catalog m` is any
such thing; `Inventory` is the catalog in memory, a list of rows in the order they were put in. A
listing never has more than `listLimit` rows, and they are counted behind the filter.
-/

set_option autoImplicit false

namespace Tenancy

/-- The most rows that a listing has. -/
def listLimit : Nat := 1000

/-- Where protected resources are read from. -/
structure Catalog (m : Type → Type) where
  list : Table → Option Filter → m (List OwnedRow)
  get? : Table → String → m (Option OwnedRow)

/-- Whether a filter admits a row as it is stored: by its label and its owner's, as they are. -/
def Filter.admitsRow (f : Filter) (r : OwnedRow) : Bool :=
  f.admits r.item.tenantId (r.owner?.bind fun o => o.item.tenantId)

/-- Whether a row passes a filter; without one every row does. -/
def passes (filter : Option Filter) (r : OwnedRow) : Bool := filter.all fun f => f.admitsRow r

/-- Rows in the order they were put in. -/
structure Inventory where
  rows : List OwnedRow
  deriving Repr

namespace Inventory

/-- No rows. -/
def empty : Inventory := ⟨[]⟩

/-- One more row. -/
def insert (inv : Inventory) (r : OwnedRow) : Inventory := ⟨inv.rows ++ [r]⟩

/-- The rows of a kind. -/
def ofKind (inv : Inventory) (kind : Kind) : List OwnedRow :=
  inv.rows.filter fun r => r.item.kind == kind

/-- The rows of a table that pass a filter, up to the limit. -/
def list (inv : Inventory) (table : Table) (filter : Option Filter) : List OwnedRow :=
  ((inv.ofKind table.kind).filter (passes filter)).take listLimit

/-- The first row of a table with an id. -/
def get? (inv : Inventory) (table : Table) (id : String) : Option OwnedRow :=
  (inv.ofKind table.kind).find? fun r => r.item.id == id

/-- The rows as a catalog. -/
def catalog {m : Type → Type} [Monad m] (inv : Inventory) : Catalog m where
  list table filter := pure (inv.list table filter)
  get? table id := pure (inv.get? table id)

end Inventory

end Tenancy
