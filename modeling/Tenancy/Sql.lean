import Tenancy.Table

/-!
# The statements that read resources

Names of tables and columns are written as delimited identifiers and values only ever as numbered
parameters, so no value can become part of a statement. Conditions and selections are trees, and
their text is one function of the tree.
-/

set_option autoImplicit false

namespace Tenancy.Sql

/-- The characters of a name between double quotes, a quote inside written twice. -/
def quotedChars (cs : List Char) : List Char :=
  '"' :: cs.flatMap (fun c => if c = '"' then ['"', '"'] else [c]) ++ ['"']

/-- A name as a delimited identifier. -/
def quoted (name : String) : String := String.ofList (quotedChars name.toList)

/-- A value in a condition. A column is one of a relation, the name that a table goes by. -/
inductive Term where
  | column (relation name : String)
  | columnText (relation name : String)
  | param (index : Nat)
  deriving DecidableEq, Repr

/-- A condition on rows. -/
inductive Cond where
  | equals (a b : Term)
  | isNull (a : Term)
  | or (a b : Cond)
  | and (a b : Cond)
  | group (c : Cond)
  /-- The value is among those of a column in the rows of a table that satisfy a condition. -/
  | among (a : Term) (column table relation : String) (condition : Cond)
  deriving DecidableEq, Repr

/-- A value as SQL. -/
def Term.sql : Term → String
  | .column relation name => relation ++ "." ++ quoted name
  | .columnText relation name => relation ++ "." ++ quoted name ++ "::text"
  | .param index => "$" ++ toString index

/-- A condition as SQL. -/
def Cond.sql : Cond → String
  | .equals a b => a.sql ++ " = " ++ b.sql
  | .isNull a => a.sql ++ " IS NULL"
  | .or a b => a.sql ++ " OR " ++ b.sql
  | .and a b => a.sql ++ " AND " ++ b.sql
  | .group c => "(" ++ c.sql ++ ")"
  | .among a column table relation condition =>
    a.sql ++ " IN (SELECT " ++ relation ++ "." ++ quoted column ++ " FROM " ++ quoted table ++
      " " ++ relation ++ " WHERE " ++ condition.sql ++ ")"

/-- A selection of whole rows of one table. -/
structure Select where
  table : String
  condition : Option Cond
  orderBy : Option String
  limit : Option Nat
  deriving DecidableEq, Repr

/-- The name of the selected table inside a selection. -/
def mainRelation : String := "main"

/-- A selection as SQL. -/
def Select.sql (s : Select) : String :=
  "SELECT row_to_json(" ++ mainRelation ++ ") FROM " ++ quoted s.table ++ " " ++ mainRelation ++
    (match s.condition with
      | some c => " WHERE " ++ c.sql
      | none => "") ++
    (match s.orderBy with
      | some column => " ORDER BY " ++ (Term.column mainRelation column).sql
      | none => "") ++
    (match s.limit with
      | some n => " LIMIT " ++ toString n
      | none => "")

/-- A statement with the values of its parameters. -/
structure Query where
  sql : String
  params : List String
  deriving DecidableEq, Repr

/-- The selection of the row whose id is the first parameter, ids compared as text. -/
def byIdSelection (table : Table) : Select where
  table := table.table
  condition := some (.equals (.columnText mainRelation table.idColumn) (.param 1))
  orderBy := none
  limit := none

/-- The selection of the row with an id. -/
def selectById (table : Table) (id : String) : Query := ⟨(byIdSelection table).sql, [id]⟩

end Tenancy.Sql
