import Tenancy.Proofs.Database.Run
import Tenancy.Proofs.Sql.Filter

/-!
# A database that holds tables

The database of this module replies to a selection with the rows that the selection means, one JSON
object a row. Against it, what the catalog lists and fetches can be said of the tables: `answer_list`
and `answer_fetchRow` do, and `member?_toJson` says what a row of a table has in JSON.
-/

set_option autoImplicit false

namespace Tenancy

/-! ## Rows in JSON -/

namespace Json

theorem Members.get?_foldl_insert (g : String → Json) (name : String) (columns : List String)
    (ms : Members) :
    ((columns.map fun c => (c, g c)).foldl (fun ms p => ms.insert p.1 p.2) ms).get? name =
      if name ∈ columns then some (g name) else ms.get? name := by
  induction columns generalizing ms with
  | nil => rfl
  | cons c columns ih =>
    rw [List.map_cons, List.foldl_cons, ih]
    by_cases hmem : name ∈ columns
    · rw [if_pos hmem, if_pos (List.mem_cons_of_mem _ hmem)]
    · rw [if_neg hmem]
      by_cases hc : name = c
      · subst hc
        rw [if_pos List.mem_cons_self]
        exact get?_insert_self ms name (g name)
      · rw [if_neg fun h => (List.mem_cons.mp h).elim hc hmem]
        exact get?_insert_of_ne ms (g c) hc

theorem member?_ofPairs (g : String → Json) (name : String) (columns : List String) :
    (ofPairs (columns.map fun c => (c, g c))).member? name =
      if name ∈ columns then some (g name) else none :=
  Members.get?_foldl_insert g name columns []

end Json

/-- A row in JSON has the columns of its table. -/
theorem Sql.Relation.member?_toJson {rel : Sql.Relation} {column : String}
    (h : column ∈ rel.columns) (x : Sql.Tuple) :
    (rel.toJson x).member? column = some (x column).image := by
  unfold Sql.Relation.toJson
  rw [Json.member?_ofPairs, if_pos h]

namespace Database

open Sql Program

/-! ## Replies -/

/-- Rows of a table as a reply, each of them as JSON. -/
def rowsReply : Option (Relation × List Tuple) → Reply
  | some (rel, xs) => .ok ⟨[⟨"row_to_json", .json⟩], xs.map fun x => [.json (rel.toJson x)]⟩
  | none => .error (.refused "no such table or column")

/-- The database with the given contents: it replies to selections with what they mean. -/
def replyFrom (db : Content) : Statement → Reply
  | .listRows table filter limit =>
    rowsReply ((rowsSelection table filter limit).rows? db (rowsParams filter))
  | .rowById table id => rowsReply ((byIdSelection table).rows? db [id])
  | _ => .ok .empty

/-- The rows of a selection as JSON; a selection that names what is not there is a failure. -/
def selected : Option (Relation × List Tuple) → Except Error (List Json)
  | some (rel, xs) => .ok (xs.map rel.toJson)
  | none => .error (.database (.refused "no such table or column"))

/-- What is sent is the text and the parameters of the selection that the reply is the meaning of. -/
theorem sent_eq_selection (table : Table) :
    (∀ filter limit,
      (Statement.listRows table filter limit).sql = (rowsSelection table filter limit).sql ∧
      (Statement.listRows table filter limit).params = (rowsParams filter).map .text) ∧
    ∀ id, (Statement.rowById table id).sql = (byIdSelection table).sql ∧
      (Statement.rowById table id).params = [.text id] :=
  ⟨fun _ _ => ⟨rfl, rfl⟩, fun _ => ⟨rfl, rfl⟩⟩

section Answers

variable {db : Content}

theorem mapM_firstColumn (columns : List Column) (column : Column) (js : List Json) :
    (js.map fun j => [Cell.json j]).mapM (firstColumn .json (column :: columns)) =
      (.ok js : Except DatabaseFault (List Json)) := by
  rw [List.mapM_map]
  induction js with
  | nil => rfl
  | cons j js ih =>
    rw [List.mapM_cons, ih]
    rfl

theorem answer_fetchRows {s : Statement} (q : Query) {sel : Option (Relation × List Tuple)}
    (h : replyFrom db s = rowsReply sel) :
    answer (replyFrom db) (fetchRows s q) = selected sel := by
  unfold fetchRows
  rw [answer_bind_ok _ (answer_note _ _), answer_bind, answer_query, h]
  rcases sel with _ | ⟨rel, xs⟩
  · rfl
  · show answer _ (Program.read (List.mapM _ (xs.map fun x => [Cell.json (rel.toJson x)]))) = _
    have hmap : (xs.map fun x => [Cell.json (rel.toJson x)]) =
        (xs.map rel.toJson).map fun j => [Cell.json j] := by
      rw [List.map_map]
      rfl
    rw [hmap, answer_read, mapM_firstColumn]
    rfl

theorem answer_list (table : Table) (filter : Option Filter) :
    answer (replyFrom db) (listRows table filter) =
      (selected ((rowsSelection table filter (some listLimit)).rows? db (rowsParams filter))).map
        fun js => js.map fun data => .free (.ofColumns table data) := by
  unfold listRows
  rw [answer_bind, answer_fetchRows _ rfl]
  cases selected ((rowsSelection table filter (some listLimit)).rows? db (rowsParams filter)) <;>
    rfl

/-- What is fetched by an id is the first row that has it. -/
theorem answer_fetchRow (table : Table) (id : String) :
    answer (replyFrom db) (fetchRow table id) =
      (selected ((byIdSelection table).rows? db [id])).map
        fun js => js.head?.map (Row.ofColumns table) := by
  unfold fetchRow
  rw [answer_bind, answer_fetchRows _ rfl]
  cases selected ((byIdSelection table).rows? db [id]) <;> rfl

end Answers

end Database

end Tenancy
