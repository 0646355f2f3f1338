import Tenancy.Proofs.Database.Session

/-!
# The gate in front of the database

What the gate answers over the database, whatever the database replies: a listing is the catalog's
listing without the rows that the base policy refuses, and a row that was fetched by its id goes
through the tenant check and then to the base policy.
-/

set_option autoImplicit false

namespace Tenancy.Database

open Program

variable {replies : Statement → Reply} {gate : Gate} {scope : Scope} {table : Table}

theorem answer_listAccessible (h : scope.deniesUnscopedCaller = false) :
    answer replies (gate.listAccessible scope catalog table) =
      (answer replies (listRows table (gate.listFilter scope table))).map (gate.keep scope) := by
  have hlist : (catalog).list = listRows := rfl
  unfold Gate.listAccessible
  rw [h, if_neg Bool.false_ne_true, answer_bind, hlist]
  cases answer replies (listRows table (gate.listFilter scope table)) <;> rfl

/-- A row with what it belongs to is put together from two rows that are fetched. -/
theorem answer_getRow (id : String) :
    answer replies (getRow table id) =
      match answer replies (fetchRow table id) with
      | .error e => .error e
      | .ok none => .ok none
      | .ok (some r) =>
        match ownerId? table r with
        | none => .ok (some (.free r))
        | some owner =>
          (answer replies (fetchRow Table.databases owner)).map fun o =>
            some (o.elim (Owned.free r) fun o => .under r (.free o)) := by
  unfold getRow
  rw [answer_bind]
  rcases answer replies (fetchRow table id) with e | _ | r
  · rfl
  · rfl
  · dsimp only
    cases ownerId? table r with
    | none => rfl
    | some owner =>
      dsimp only
      rw [answer_bind]
      rcases answer replies (fetchRow Table.databases owner) with e | _ | o <;> rfl

/-- What a caller is answered who asks for a row by its id. -/
theorem answer_getAccessible (id : String) :
    answer replies (gate.getAccessible scope catalog table id) =
      match answer replies (getRow table id) with
      | .error e => .error e
      | .ok none => .error (.resourceNotFound table.kind id)
      | .ok (some r) => gate.checked scope r :=
  session_getAccessible (fun (_ : Unit) st => (replies st, ())) () gate scope id

end Tenancy.Database
