/-!
# Kinds of protected resources

Five kinds of resource are protected. Each has a name that messages use, a segment that paths use,
and a key that data uses.
-/

set_option autoImplicit false

namespace Tenancy

/-- A kind of protected resource. -/
inductive Kind where
  | database
  | datasource
  | dashboard
  | chart
  | savedQuery
  deriving DecidableEq, Repr

namespace Kind

/-- All kinds. -/
def all : List Kind := [.database, .datasource, .dashboard, .chart, .savedQuery]

/-- The name of the kind in messages. -/
def name : Kind → String
  | .database => "Database"
  | .datasource => "Datasource"
  | .dashboard => "Dashboard"
  | .chart => "Chart"
  | .savedQuery => "SavedQuery"

/-- The segment of the kind in paths. -/
def segment : Kind → String
  | .database => "databases"
  | .datasource => "datasets"
  | .dashboard => "dashboards"
  | .chart => "charts"
  | .savedQuery => "saved_queries"

/-- The key of the kind in data. -/
def key : Kind → String
  | .database => "database"
  | .datasource => "datasource"
  | .dashboard => "dashboard"
  | .chart => "chart"
  | .savedQuery => "saved_query"

/-- The kind of a path segment. -/
def ofSegment? (s : String) : Option Kind := all.find? (·.segment == s)

/-- The kind of a key. -/
def ofKey? (s : String) : Option Kind := all.find? (·.key == s)

theorem ofSegment?_segment (k : Kind) : ofSegment? k.segment = some k := by
  cases k <;> decide

theorem mem_all (k : Kind) : k ∈ all := by cases k <;> decide

end Kind

end Tenancy
