import Tenancy.Database.Statement
import Tenancy.Logged

/-!
# Conversations with the database

What the library does with a database is a program that asks it one statement at a time and goes on
with each reply. A program is data: it is done with an answer or a failure, it logs, or it asks. So
nothing is assumed of the database here, and what it is is chosen when a program is run: `run` takes
any function that answers statements and changes a state.
-/

set_option autoImplicit false

namespace Tenancy.Database

/-- The type of a column. -/
inductive ColumnType where
  | text
  | bool
  | int8
  | json
  | jsonb
  | timestamptz
  deriving DecidableEq, Repr

/-- The type as the database names it. -/
def ColumnType.name : ColumnType → String
  | text => "TEXT"
  | bool => "BOOL"
  | int8 => "INT8"
  | json => "JSON"
  | jsonb => "JSONB"
  | timestamptz => "TIMESTAMPTZ"

/-- A column of a reply. -/
structure Column where
  name : String
  type : ColumnType
  deriving DecidableEq, Repr

/-- The rows of a reply, the values of each in the order of the columns. -/
structure RowSet where
  columns : List Column
  rows : List (List Cell)
  deriving Repr

/-- No rows. -/
def RowSet.empty : RowSet := ⟨[], []⟩

/-- What the database replies to a statement. -/
abbrev Reply := Except DatabaseFault RowSet

/-- A conversation that ends in an answer or a failure. -/
inductive Program (α : Type) where
  | done (answer : Except Error α)
  | log (event : Event) (rest : Program α)
  | ask (statement : Statement) (next : Reply → Program α)

namespace Program

variable {α β : Type}

/-- A program, and another that goes on with its answer; a failure ends both. -/
def bind (p : Program α) (f : α → Program β) : Program β :=
  match p with
  | done (.ok a) => f a
  | done (.error e) => done (.error e)
  | log e rest => log e (rest.bind f)
  | ask s next => ask s fun r => (next r).bind f

/-- A program, and another in its place if it fails. -/
def rescue (p : Program α) (f : Error → Program α) : Program α :=
  match p with
  | done (.ok a) => done (.ok a)
  | done (.error e) => f e
  | log e rest => log e (rest.rescue f)
  | ask s next => ask s fun r => (next r).rescue f

instance : Monad Program where
  pure a := done (.ok a)
  bind := bind

instance : MonadExceptOf Error Program where
  throw e := done (.error e)
  tryCatch := rescue

instance : Logging Program where
  note e := log e (done (.ok ⟨⟩))

/-! ## Asking -/

/-- The rows of the reply to a statement; a fault of the database is a failure. -/
def query (s : Statement) : Program RowSet :=
  ask s fun
    | .ok rows => done (.ok rows)
    | .error fault => done (.error (.database fault))

/-- A statement whose reply does not matter, unless it is a fault. -/
def execute (s : Statement) : Program Unit :=
  ask s fun
    | .ok _ => done (.ok ())
    | .error fault => done (.error (.database fault))

/-- A value that was read from a reply, or the fault of reading it as a failure. -/
def read (x : Except DatabaseFault α) : Program α := done (x.mapError .database)

/-! ## Running -/

/-- What came of a run: the answer, the statements and events in order, and the database's state
at the end. -/
structure Outcome (σ α : Type) where
  answer : Except Error α
  statements : List Statement
  events : List Event
  state : σ

/-- Runs a program against a database. -/
def run {σ : Type} (database : σ → Statement → Reply × σ) (state : σ) :
    Program α → Outcome σ α
  | done answer => ⟨answer, [], [], state⟩
  | log e rest =>
    let o := run database state rest
    { o with events := e :: o.events }
  | ask s next =>
    let (reply, state) := database state s
    let o := run database state (next reply)
    { o with statements := s :: o.statements }

/-- The database that gives prepared replies in order, and then no rows. -/
def prepared : List Reply → Statement → Reply × List Reply
  | [], _ => (.ok .empty, [])
  | r :: rest, _ => (r, rest)

end Program

end Tenancy.Database
