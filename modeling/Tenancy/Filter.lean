import Tenancy.Sql
import Tenancy.TenantId

/-!
# The tenant filter of listings

A listing for a tenant is filtered where the rows are stored. The filter admits a row that is
labelled with the tenant, and an unlabelled one if it is told to include those, provided that what
the row belongs to is not labelled with another tenant. It exists in two forms: `admits` decides
about labels, and `condition` is the SQL condition that decides about rows.
-/

set_option autoImplicit false

namespace Tenancy

/-- A filter for the rows of one tenant. -/
structure Filter where
  column : String
  tenant : TenantId
  includeUnscoped : Bool
  owner : Option OwnerLink
  deriving DecidableEq, Repr

namespace Filter

/-- The filter for a tenant's rows of a table, if its rows carry labels. -/
def of? (table : Table) (tenant : TenantId) (includeUnscoped : Bool) : Option Filter :=
  table.tenantColumn.map fun column => ⟨column, tenant, includeUnscoped, table.owner⟩

/-- Whether the filter admits a row with this label, and the label of what it belongs to. -/
def admits (f : Filter) (label ownerLabel : Option TenantId) : Bool :=
  (match label with
    | some l => l == f.tenant
    | none => f.includeUnscoped) &&
  (match ownerLabel with
    | some l => l == f.tenant
    | none => true)

/-- The condition on a row's own label, the tenant being the given parameter. -/
def ownCondition (f : Filter) (relation : String) (index : Nat) : Sql.Cond :=
  let label := Sql.Term.column relation f.column
  if f.includeUnscoped then
    .group (.or (.equals label (.param index)) (.isNull label))
  else .equals label (.param index)

/-- The name of the owners' table inside the condition on owners. -/
def ownerRelation : String := "o"

/-- The condition on what a row belongs to: nothing, or an owner without a label or with the
tenant's. -/
def ownerCondition (link : OwnerLink) (relation : String) (index : Nat) : Sql.Cond :=
  let key := Sql.Term.column relation link.foreignKey
  let label := Sql.Term.column ownerRelation link.tenantColumn
  .group (.or (.isNull key)
    (.among key link.idColumn link.table ownerRelation
      (.or (.isNull label) (.equals label (.param index)))))

/-- The filter as a condition on the rows of `relation`, the tenant being the given parameter. -/
def condition (f : Filter) (relation : String) (index : Nat) : Sql.Cond :=
  match f.owner with
  | some link => .and (f.ownCondition relation index) (ownerCondition link relation index)
  | none => f.ownCondition relation index

/-- The condition's text behind parameters already bound, and the parameters with the tenant. A
position is a number without bound here. Where it is counted in 32 bits that is the same for whatever
can be sent, since a statement has 65535 parameters at most. -/
def bind (f : Filter) (relation : String) (bound : List String) : Sql.Query :=
  ⟨(f.condition relation (bound.length + 1)).sql, bound ++ [f.tenant.text]⟩

end Filter

namespace Sql

/-- The selection of a table's rows, filtered and limited, in the order of their ids. A filter's
tenant is the first parameter. -/
def rowsSelection (table : Table) (filter : Option Filter) (limit : Option Nat) : Select where
  table := table.table
  condition := filter.map fun f => f.condition mainRelation 1
  orderBy := some table.idColumn
  limit := limit

/-- The parameters of a filtered selection. -/
def rowsParams (filter : Option Filter) : List String :=
  (filter.map fun f => f.tenant.text).toList

/-- A table's rows, filtered and limited. -/
def selectRows (table : Table) (filter : Option Filter) (limit : Option Nat) : Query :=
  ⟨(rowsSelection table filter limit).sql, rowsParams filter⟩

end Sql

end Tenancy
