import Tenancy.Database.Program

/-!
# Reading replies

Columns are read by place where a reply has one, and by name where it has a record's; of several
columns with one name the last counts. What is needed has a type: it is read from columns of the
types that fit, and a column of another type, a column that is not there, or a null where a value is
needed, is a fault that names the column. A null is a null in a column of any type.
-/

set_option autoImplicit false

namespace Tenancy.Database

open Registry

/-! ## What can be needed -/

/-- A type of values that can be needed from a column: how a cell holds one, and how faults name the
type and the columns it is made for. -/
structure Needed (α : Type) where
  ofCell? : Cell → Option α
  typeName : String
  columnType : ColumnType

namespace Needed

/-- Text, under the name of a type that is kept as text. -/
def textAs (typeName : String) : Needed String where
  ofCell?
    | .text s => some s
    | _ => none
  typeName := typeName
  columnType := .text

/-- Text. -/
def text : Needed String := textAs "alloc::string::String"

/-- A tenant's id, which is kept as text. -/
def tenantId : Needed String := textAs "tenant_scope::tenant::TenantId"

/-- A truth value. -/
def bool : Needed Bool where
  ofCell?
    | .bool b => some b
    | _ => none
  typeName := "bool"
  columnType := .bool

/-- A whole number. -/
def int : Needed Int where
  ofCell?
    | .int n => some n
    | _ => none
  typeName := "i64"
  columnType := .int8

/-- A JSON value. Columns of both JSON types hold them. -/
def json : Needed Json where
  ofCell?
    | .json j => some j
    | _ => none
  typeName := "serde_json::value::Value"
  columnType := .jsonb

/-- A moment. -/
def time : Needed Instant where
  ofCell?
    | .time t => some t
    | _ => none
  typeName := "chrono::datetime::DateTime<chrono::offset::utc::Utc>"
  columnType := .timestamptz

/-- A value that may be missing, for which null stands. -/
def orNull {α : Type} (needed : Needed α) : Needed (Option α) where
  ofCell?
    | .null => some none
    | c => (needed.ofCell? c).map some
  typeName := "core::option::Option<" ++ needed.typeName ++ ">"
  columnType := needed.columnType

/-- The reason of a null where a value is needed. -/
def unexpectedNull : String := "unexpected null; try decoding as an `Option`"

/-- The reason of a column of another type than the ones that fit. -/
def mismatch {α : Type} (needed : Needed α) (found : ColumnType) : String :=
  "mismatched types; Rust type `" ++ needed.typeName ++ "` (as SQL type `" ++
    needed.columnType.name ++ "`) is not compatible with SQL type `" ++ found.name ++ "`"

/-- The value of a cell of a column. -/
def read {α : Type} (needed : Needed α) (ref : ColumnRef) (type : ColumnType) (c : Cell) :
    Except DatabaseFault α :=
  match needed.ofCell? c, c with
  | some a, _ => .ok a
  | none, .null => .error (.undecodable ref unexpectedNull)
  | none, _ => .error (.undecodable ref (needed.mismatch type))

end Needed

/-! ## Where it is read from -/

/-- The value of the first column of a row. -/
def firstColumn {α : Type} (needed : Needed α) (columns : List Column) (row : List Cell) :
    Except DatabaseFault α :=
  match columns, row with
  | column :: _, c :: _ => needed.read (.at 0) column.type c
  | _, _ => .error (.columnOutOfBounds 0 0)

/-- The column with a name and its cell, the last of several. -/
def namedColumn (columns : List Column) (row : List Cell) (name : String) :
    Except DatabaseFault (Column × Cell) :=
  match (columns.zip row).reverse.find? fun p => p.1.name == name with
  | some p => .ok p
  | none => .error (.columnMissing name)

/-- The record that a row holds, its columns read in the order of a record's fields. -/
def recordOf (columns : List Column) (row : List Cell) : Except DatabaseFault Record := do
  let field {α : Type} (needed : Needed α) (name : String) : Except DatabaseFault α := do
    let (column, c) ← namedColumn columns row name
    needed.read (.named name) column.type c
  let tenantId ← field .tenantId "tenant_id"
  let name ← field .text "tenant_name"
  let description ← field Needed.text.orNull "description"
  let isActive ← field .bool "is_active"
  let databaseSchema ← field Needed.text.orNull "database_schema"
  let configuration ← field Needed.json.orNull "configuration"
  let createdOn ← field .time "created_on"
  let changedOn ← field .time "changed_on"
  let createdBy ← field Needed.int.orNull "created_by_fk"
  let changedBy ← field Needed.int.orNull "changed_by_fk"
  return ⟨⟨tenantId⟩, name, description, isActive, databaseSchema, configuration, createdOn,
    changedOn, createdBy, changedBy⟩

/-- All records of a reply. -/
def RowSet.records (rs : RowSet) : Except DatabaseFault (List Record) :=
  rs.rows.mapM (recordOf rs.columns)

/-- The first record of a reply, if it has one. -/
def RowSet.record? (rs : RowSet) : Except DatabaseFault (Option Record) :=
  match rs.rows with
  | [] => .ok none
  | row :: _ => (recordOf rs.columns row).map some

/-- The first value of the first row of a reply, if it has one. -/
def RowSet.first? {α : Type} (needed : Needed α) (rs : RowSet) :
    Except DatabaseFault (Option α) :=
  match rs.rows with
  | [] => .ok none
  | row :: _ => (firstColumn needed rs.columns row).map some

end Tenancy.Database
