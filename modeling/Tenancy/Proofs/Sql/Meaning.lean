import Tenancy.Json.Basic
import Tenancy.Sql

/-!
# What selections mean

A selection is a tree, and its text is one function of the tree; what it selects is another one,
given here. Conditions have three truth values: a comparison with a null is neither true nor false,
and only rows for which the whole condition is true are selected. A selection that names a table or
a column that is not there selects nothing; it fails.

Of a value only two things matter, its text and what it is in JSON. Two values of a column are the
same if their texts are, and a null has no text.
-/

set_option autoImplicit false

namespace Tenancy.Sql

/-! ## Tables -/

/-- What is known of a value in a column: its text unless it is null, and what it is in JSON. -/
structure Value where
  text? : Option String
  image : Json

namespace Value

def null : Value := ⟨none, .null⟩

def ofText (s : String) : Value := ⟨some s, .text s⟩

def ofInt (n : Int) : Value := ⟨some (toString n), .ofInt n⟩

end Value

/-- A row of a table, by columns. -/
abbrev Tuple := String → Value

/-- A table: its columns and its rows. -/
structure Relation where
  columns : List String
  tuples : List Tuple

/-- A row as JSON, with all columns of its table. -/
def Relation.toJson (rel : Relation) (x : Tuple) : Json :=
  .ofPairs (rel.columns.map fun c => (c, (x c).image))

/-- The contents of a database: its tables, and how it puts rows in the order of a column. -/
structure Content where
  relation? : String → Option Relation
  order : String → List Tuple → List Tuple
  order_perm : ∀ column xs, (order column xs).Perm xs

/-! ## Truth values -/

/-- True, false, or neither. -/
abbrev Truth := Option Bool

namespace Truth

def and : Truth → Truth → Truth
  | some false, _ => some false
  | _, some false => some false
  | some true, some true => some true
  | _, _ => none

def or : Truth → Truth → Truth
  | some true, _ => some true
  | _, some true => some true
  | some false, some false => some false
  | _, _ => none

/-- One of several conditions at least. -/
def any (ts : List Truth) : Truth := ts.foldr or (some false)

/-- Whether two values are the same, by their texts. -/
def same : Option String → Option String → Truth
  | some s, some t => some (s == t)
  | _, _ => none

theorem and_eq_true {a b : Truth} : and a b = some true ↔ a = some true ∧ b = some true := by
  rcases a with _ | _ | _ <;> rcases b with _ | _ | _ <;> simp [and]

theorem or_eq_true {a b : Truth} : or a b = some true ↔ a = some true ∨ b = some true := by
  rcases a with _ | _ | _ <;> rcases b with _ | _ | _ <;> simp [or]

theorem any_eq_true {ts : List Truth} : any ts = some true ↔ some true ∈ ts := by
  unfold any
  induction ts with
  | nil => simp
  | cons t ts ih => rw [List.foldr_cons, or_eq_true, ih, List.mem_cons, eq_comm]

theorem same_eq_true {a b : Option String} : same a b = some true ↔ ∃ s, a = some s ∧ b = some s := by
  rcases a with _ | s
  · simp [same]
  · rcases b with _ | t
    · simp [same]
    · simp only [same, Option.some.injEq, beq_iff_eq]
      exact ⟨fun h => ⟨s, rfl, h.symm⟩, fun ⟨_, hs, ht⟩ => hs.trans ht.symm⟩

end Truth

/-! ## Conditions -/

/-- The rows that names of relations stand for, the innermost first. -/
abbrev Env := List (String × Tuple)

/-- The text of a term; a cast to text changes no text. -/
def Term.text? (env : Env) (params : List String) : Term → Option String
  | .column relation name => (env.lookup relation).bind fun x => (x name).text?
  | .columnText relation name => (env.lookup relation).bind fun x => (x name).text?
  | .param index => params[index - 1]?

/-- The truth value of a condition. A value is among others if it is the same as one of them. -/
def Cond.truth (db : Content) (params : List String) : Env → Cond → Truth
  | env, .equals a b => .same (a.text? env params) (b.text? env params)
  | env, .isNull a => some (a.text? env params).isNone
  | env, .or a b => .or (a.truth db params env) (b.truth db params env)
  | env, .and a b => .and (a.truth db params env) (b.truth db params env)
  | env, .group c => c.truth db params env
  | env, .among a column table relation c =>
    .any (((((db.relation? table).map Relation.tuples).getD []).filter fun y =>
      c.truth db params ((relation, y) :: env) == some true).map fun y =>
        .same (a.text? env params) (y column).text?)

/-- The columns that names of relations stand for. -/
abbrev Names := List (String × List String)

def Term.isKnown (names : Names) : Term → Bool
  | .column relation name => (names.lookup relation).any fun columns => columns.contains name
  | .columnText relation name => (names.lookup relation).any fun columns => columns.contains name
  | .param _ => true

/-- Whether all tables and columns of a condition are there. -/
def Cond.isKnown (db : Content) : Names → Cond → Bool
  | names, .equals a b => a.isKnown names && b.isKnown names
  | names, .isNull a => a.isKnown names
  | names, .or a b => a.isKnown db names && b.isKnown db names
  | names, .and a b => a.isKnown db names && b.isKnown db names
  | names, .group c => c.isKnown db names
  | names, .among a column table relation c =>
    a.isKnown names && match db.relation? table with
      | some rel => rel.columns.contains column && c.isKnown db ((relation, rel.columns) :: names)
      | none => false

theorem truth_among_eq_true {db : Content} {params : List String} {env : Env} {a : Term}
    {column table relation : String} {c : Cond} :
    (Cond.among a column table relation c).truth db params env = some true ↔
      ∃ rel, db.relation? table = some rel ∧ ∃ y ∈ rel.tuples,
        c.truth db params ((relation, y) :: env) = some true ∧
          ∃ s, a.text? env params = some s ∧ (y column).text? = some s := by
  show Truth.any _ = some true ↔ _
  rw [Truth.any_eq_true, List.mem_map]
  cases db.relation? table with
  | none => simp
  | some rel =>
    show (∃ y ∈ rel.tuples.filter _, _) ↔ _
    constructor
    · rintro ⟨y, hy, hsame⟩
      obtain ⟨hmem, hc⟩ := List.mem_filter.mp hy
      exact ⟨rel, rfl, y, hmem, beq_iff_eq.mp hc, Truth.same_eq_true.mp hsame⟩
    · rintro ⟨rel', hrel, y, hmem, hc, hs⟩
      obtain rfl := Option.some.inj hrel
      exact ⟨y, List.mem_filter.mpr ⟨hmem, beq_iff_eq.mpr hc⟩, Truth.same_eq_true.mpr hs⟩

/-! ## Selections -/

/-- Whether all names in a selection of a table's rows are there. -/
def Select.isKnown (db : Content) (rel : Relation) (s : Select) : Bool :=
  (s.condition.all fun c => c.isKnown db [(mainRelation, rel.columns)]) &&
    s.orderBy.all fun column => rel.columns.contains column

/-- The rows that satisfy the condition of a selection. -/
def Select.satisfying (db : Content) (params : List String) (s : Select) (rel : Relation) :
    List Tuple :=
  rel.tuples.filter fun x =>
    s.condition.all fun c => c.truth db params [(mainRelation, x)] == some true

/-- What a selection selects, in order and up to its limit, with the table it selects from. -/
def Select.rows? (db : Content) (params : List String) (s : Select) :
    Option (Relation × List Tuple) :=
  match db.relation? s.table with
  | none => none
  | some rel =>
    if s.isKnown db rel then
      let found := s.satisfying db params rel
      let ordered := (s.orderBy.map fun column => db.order column found).getD found
      some (rel, (s.limit.map ordered.take).getD ordered)
    else none

/-- Whatever is selected is a row of the table that satisfies the condition. -/
theorem Select.of_mem_rows {db : Content} {params : List String} {s : Select} {rel : Relation}
    {xs : List Tuple} (h : s.rows? db params = some (rel, xs)) :
    db.relation? s.table = some rel ∧ s.isKnown db rel = true ∧
      ∀ x ∈ xs, x ∈ s.satisfying db params rel := by
  unfold rows? at h
  cases hrel : db.relation? s.table with
  | none =>
    rw [hrel] at h
    exact absurd h (by simp)
  | some rel' =>
    rw [hrel] at h
    cases hknown : s.isKnown db rel' with
    | false => exact absurd h (by simp [hknown])
    | true =>
      simp only [hknown, if_true] at h
      obtain ⟨rfl, rfl⟩ := Prod.mk.inj (Option.some.inj h)
      refine ⟨rfl, hknown, fun x hx => ?_⟩
      have hordered : x ∈ ((s.orderBy.map fun column =>
          db.order column (s.satisfying db params rel')).getD (s.satisfying db params rel')) := by
        cases hl : s.limit with
        | none =>
          rw [hl] at hx
          exact hx
        | some n =>
          rw [hl] at hx
          exact List.mem_of_mem_take hx
      cases ho : s.orderBy with
      | none =>
        rw [ho] at hordered
        exact hordered
      | some column =>
        rw [ho] at hordered
        exact (db.order_perm column _).mem_iff.mp hordered

end Tenancy.Sql
