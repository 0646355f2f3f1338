import Tenancy.Proofs.Database.Run
import Tenancy.Proofs.Gate.Check

/-!
# Fetching from a database that changes

What the catalog fetches, and what the gate answers of it, is stated here by the replies alone, and
each reply may come from another state of the database: `session_fetchRow`, `session_getRow` and
`session_getAccessible`.
-/

set_option autoImplicit false

namespace Tenancy.Database

open Program

/-! ## Fetching -/

/-- The first row of a reply as JSON, if the reply has rows; a reply that cannot be read is a
failure, whichever of its rows is at fault. -/
def firstObject (reply : Reply) : Except Error (Option Json) :=
  match reply with
  | .error fault => .error (.database fault)
  | .ok rs => ((rs.rows.mapM (firstColumn .json rs.columns)).mapError .database).map List.head?

section Fetching

variable {σ : Type} (database : σ → Statement → Reply × σ) (s : σ) {table : Table}

theorem session_fetchRow (id : String) :
    session database s (fetchRow table id) =
      ((firstObject (database s (.rowById table id)).1).map
        (Option.map (Row.ofColumns table)), (database s (.rowById table id)).2) := by
  unfold fetchRow fetchRows
  simp only [session_bind, session_note, session_query, session_read]
  cases (database s (.rowById table id)).1 with
  | error fault => rfl
  | ok rs =>
    have hread : Except.mapError Error.database (.ok rs) = .ok rs := rfl
    unfold firstObject
    simp only [hread]
    cases rs.rows.mapM (firstColumn .json rs.columns) <;> rfl

/-- A row with what it belongs to is put together from two replies: the second one is asked for only
if the first row names an owner, and it comes from whatever the database has become by then. -/
theorem session_getRow (id : String) :
    (session database s (getRow table id)).1 =
      match firstObject (database s (.rowById table id)).1 with
      | .error e => .error e
      | .ok none => .ok none
      | .ok (some data) =>
        match ownerId? table (.ofColumns table data) with
        | none => .ok (some (.free (.ofColumns table data)))
        | some key =>
          (firstObject (database (database s (.rowById table id)).2
              (.rowById Table.databases key)).1).map fun o =>
            some (o.elim (.free (.ofColumns table data)) fun o =>
              .under (.ofColumns table data) (.free (.ofColumns Table.databases o))) := by
  unfold getRow
  rw [session_bind, session_fetchRow]
  rcases firstObject (database s (.rowById table id)).1 with e | _ | data
  · rfl
  · rfl
  · simp only [Except.map, Option.map_some]
    cases ownerId? table (.ofColumns table data) with
    | none => rfl
    | some key =>
      simp only [session_bind, session_fetchRow]
      rcases firstObject (database (database s (.rowById table id)).2
        (.rowById Table.databases key)).1 with e | _ | o <;> rfl

/-- What a caller is answered who asks any catalog for a row by its id. A decision asks the database
for nothing. -/
theorem session_getAccessible_of (gate : Gate) (scope : Scope) (rows : Catalog Program)
    (id : String) :
    session database s (gate.getAccessible scope rows table id) =
      match session database s (rows.get? table id) with
      | (.error e, s') => (.error e, s')
      | (.ok none, s') => (.error (.resourceNotFound table.kind id), s')
      | (.ok (some r), s') => (gate.checked scope r, s') := by
  unfold Gate.getAccessible
  rw [session_bind]
  rcases session database s (rows.get? table id) with ⟨e | _ | r, s'⟩
  · rfl
  · rfl
  · have hitem : (resource r).item = r.item.facet := Owned.item_map Row.facet r
    show session database s' (gate.raise scope (resource r) >>= fun _ => pure r) =
      (gate.checked scope r, s')
    unfold Gate.raise Gate.checked
    rw [session_bind, hitem]
    cases tenantCheck scope (resource r) with
    | deny => rfl
    | allow => rcases gate.policy.raise scope (resource r) with _ | ⟨⟩ <;> rfl
    | notApplicable => rcases gate.policy.raise scope (resource r) with _ | ⟨⟩ <;> rfl

/-- What a caller is answered who asks for a row by its id. -/
theorem session_getAccessible (gate : Gate) (scope : Scope) (id : String) :
    (session database s (gate.getAccessible scope catalog table id)).1 =
      match (session database s (getRow table id)).1 with
      | .error e => .error e
      | .ok none => .error (.resourceNotFound table.kind id)
      | .ok (some r) => gate.checked scope r := by
  have hget : (catalog).get? = getRow := rfl
  rw [session_getAccessible_of, hget]
  rcases session database s (getRow table id) with ⟨e | _ | r, s'⟩ <;> rfl

end Fetching

end Tenancy.Database
