import Tenancy.Proofs.Sql.Written

/-!
# Statements without injection

Every statement that selects resources is a frame with names in it (`statements_framed`). Cut into
tokens, it has a delimited name for each name it was given, spelled as it was given, and what is left
is known from the shape of the statement alone: whether there is a filter, what kind of filter, and
the limit. A name of any spelling stays one name, and a tenant or an id is nowhere but among the
parameters, because the text does not depend on it.
-/

set_option autoImplicit false

namespace Tenancy.Sql

/-! ## Names, frames and positions -/

namespace Token

def name? : Token → Option String
  | .name s => some s
  | _ => none

def position? : Token → Option Nat
  | .param i => some i
  | _ => none

/-- A token without the name that it holds. -/
def masked : Token → Token
  | .name _ => .name ""
  | t => t

end Token

/-- The delimited names among tokens. -/
def names (ts : List Token) : List String := ts.filterMap Token.name?

/-- The positions of the parameters among tokens. -/
def positions (ts : List Token) : List Nat := ts.filterMap Token.position?

/-- Tokens without the names that they hold. -/
def frame (ts : List Token) : List Token := ts.map Token.masked

/-- A statement is cut into a frame with names in it, refers to parameters at certain positions, and
comes with certain parameters. -/
structure Query.Framed (q : Query) (outline : List Token) (given : List String) (used : List Nat)
    (params : List String) : Prop where
  exists_tokens : ∃ ts, tokens? q.sql = some ts ∧ frame ts = outline ∧ names ts = given ∧
    positions ts = used
  params_eq : q.params = params

/-! ## Trees without their names -/

namespace Term

def masked : Term → Term
  | .column relation _ => .column relation ""
  | .columnText relation _ => .columnText relation ""
  | .param index => .param index

def names : Term → List String
  | .column _ name => [name]
  | .columnText _ name => [name]
  | .param _ => []

def positions : Term → List Nat
  | .param index => [index]
  | _ => []

end Term

namespace Cond

def masked : Cond → Cond
  | .equals a b => .equals a.masked b.masked
  | .isNull a => .isNull a.masked
  | .or a b => .or a.masked b.masked
  | .and a b => .and a.masked b.masked
  | .group c => .group c.masked
  | .among a _ _ relation c => .among a.masked "" "" relation c.masked

/-- The names of a condition, in the order in which they are written. -/
def names : Cond → List String
  | .equals a b => a.names ++ b.names
  | .isNull a => a.names
  | .or a b => a.names ++ b.names
  | .and a b => a.names ++ b.names
  | .group c => c.names
  | .among a column table _ c => a.names ++ [column, table] ++ c.names

/-- The positions of the parameters of a condition, in the order in which they are written. -/
def positions : Cond → List Nat
  | .equals a b => a.positions ++ b.positions
  | .isNull a => a.positions
  | .or a b => a.positions ++ b.positions
  | .and a b => a.positions ++ b.positions
  | .group c => c.positions
  | .among a _ _ _ c => a.positions ++ c.positions

end Cond

namespace Select

def masked (s : Select) : Select :=
  ⟨"", s.condition.map Cond.masked, s.orderBy.map fun _ => "", s.limit⟩

def names (s : Select) : List String :=
  s.table :: (s.condition.map Cond.names).getD [] ++ s.orderBy.toList

def positions (s : Select) : List Nat := (s.condition.map Cond.positions).getD []

end Select

/-! ## Their tokens -/

section Tokens

variable (t : Token) (ts us : List Token)

@[simp]
theorem frame_nil : frame [] = [] := rfl

@[simp]
theorem frame_cons : frame (t :: ts) = t.masked :: frame ts := rfl

@[simp]
theorem frame_append : frame (ts ++ us) = frame ts ++ frame us := List.map_append

@[simp]
theorem names_nil : names [] = [] := rfl

@[simp]
theorem names_cons : names (t :: ts) = t.name?.toList ++ names ts := by
  cases t <;> rfl

@[simp]
theorem names_append : names (ts ++ us) = names ts ++ names us := List.filterMap_append

@[simp]
theorem positions_nil : positions [] = [] := rfl

@[simp]
theorem positions_cons : positions (t :: ts) = t.position?.toList ++ positions ts := by
  cases t <;> rfl

@[simp]
theorem positions_append : positions (ts ++ us) = positions ts ++ positions us :=
  List.filterMap_append

end Tokens

theorem frame_term (t : Term) : frame t.tokens = t.masked.tokens := by
  cases t <;> rfl

theorem names_term (t : Term) : names t.tokens = t.names := by
  cases t <;> rfl

theorem positions_term (t : Term) : positions t.tokens = t.positions := by
  cases t <;> rfl

/-- **What is left of a condition without its names does not depend on them.** -/
theorem frame_cond (c : Cond) : frame c.tokens = c.masked.tokens := by
  induction c <;> simp_all [Cond.tokens, Cond.masked, Token.masked, frame_term, Term.masked]

/-- The delimited names of a condition are the names that it was given. -/
theorem names_cond (c : Cond) : names c.tokens = c.names := by
  induction c <;> simp_all [Cond.tokens, Cond.names, Token.name?, names_term, Term.names]

/-- A condition refers to the parameters that it was given. -/
theorem positions_cond (c : Cond) : positions c.tokens = c.positions := by
  induction c <;>
    simp_all [Cond.tokens, Cond.positions, Token.position?, positions_term, Term.positions]

theorem frame_select (s : Select) : frame s.tokens = s.masked.tokens := by
  obtain ⟨table, condition, orderBy, limit⟩ := s
  cases condition <;> cases orderBy <;> cases limit <;>
    simp [Select.tokens, Select.masked, Token.masked, frame_cond, frame_term, Term.masked]

theorem names_select (s : Select) : names s.tokens = s.names := by
  obtain ⟨table, condition, orderBy, limit⟩ := s
  cases condition <;> cases orderBy <;> cases limit <;>
    simp [Select.tokens, Select.names, Token.name?, names_cond, names_term, Term.names]

theorem positions_select (s : Select) : positions s.tokens = s.positions := by
  obtain ⟨table, condition, orderBy, limit⟩ := s
  cases condition <;> cases orderBy <;> cases limit <;>
    simp [Select.tokens, Select.positions, Token.position?, positions_cond, positions_term,
      Term.positions]

end Tenancy.Sql

namespace Tenancy

open Sql

/-! ## Filters -/

namespace Filter

/-- What the text of a filter depends on besides its names: whether rows without a label are
included, and whether rows have owners. -/
def shape (f : Filter) : Bool × Bool := (f.includeUnscoped, f.owner.isSome)

/-- The filter of a shape without names. -/
def ofShape (s : Bool × Bool) : Filter :=
  ⟨"", ⟨""⟩, s.1, if s.2 then some ⟨"", "", "", ""⟩ else none⟩

/-- The names in a filter's text. -/
def names (f : Filter) : List String :=
  (if f.includeUnscoped then [f.column, f.column] else [f.column]) ++
    match f.owner with
    | some link =>
      [link.foreignKey, link.foreignKey, link.idColumn, link.table, link.tenantColumn,
        link.tenantColumn]
    | none => []

/-- How often a filter refers to its tenant. -/
def uses (f : Filter) : Nat := if f.owner.isSome then 2 else 1

theorem masked_condition (f : Filter) (relation : String) (index : Nat) :
    (f.condition relation index).masked = (ofShape f.shape).condition relation index := by
  obtain ⟨column, tenant, includeUnscoped, owner⟩ := f
  cases owner <;> cases includeUnscoped <;> rfl

theorem names_condition (f : Filter) (relation : String) (index : Nat) :
    (f.condition relation index).names = f.names := by
  obtain ⟨column, tenant, includeUnscoped, owner⟩ := f
  cases owner <;> cases includeUnscoped <;> rfl

theorem positions_condition (f : Filter) (relation : String) (index : Nat) :
    (f.condition relation index).positions = List.replicate f.uses index := by
  obtain ⟨column, tenant, includeUnscoped, owner⟩ := f
  cases owner <;> cases includeUnscoped <;> rfl

end Filter

/-! ## Statements -/

namespace Sql

theorem framed_of_cond {c : Cond} (h : c.isPlain = true) (params : List String) :
    Query.Framed ⟨c.sql, params⟩ c.masked.tokens c.names c.positions params :=
  ⟨⟨c.tokens, (lexes_cond h).tokens?, frame_cond c, names_cond c, positions_cond c⟩, rfl⟩

theorem framed_of_select {s : Select} (h : s.condition.all Cond.isPlain = true)
    (params : List String) :
    Query.Framed ⟨s.sql, params⟩ s.masked.tokens s.names s.positions params :=
  ⟨⟨s.tokens, tokens?_select h, frame_select s, names_select s, positions_select s⟩, rfl⟩

/-- What is left of a listing without its names. -/
def listingFrame (shape : Option (Bool × Bool)) (limit : Option Nat) : List Token :=
  (rowsSelection ⟨.database, "", "", none, none⟩ (shape.map Filter.ofShape) limit).tokens

/-- What is left of the selection of a row without its names. -/
def byIdFrame : List Token := (byIdSelection ⟨.database, "", "", none, none⟩).tokens

/-- The names in a listing of a table. -/
def listingNames (table : Table) (filter : Option Filter) : List String :=
  table.table :: (filter.map Filter.names).getD [] ++ [table.idColumn]

theorem framed_selectRows (table : Table) (filter : Option Filter) (limit : Option Nat) :
    (selectRows table filter limit).Framed (listingFrame (filter.map Filter.shape) limit)
      (listingNames table filter) ((filter.map fun f => List.replicate f.uses 1).getD [])
      (filter.map fun f => f.tenant.text).toList := by
  have hplain : (rowsSelection table filter limit).condition.all Cond.isPlain = true := by
    cases filter with
    | none => rfl
    | some f => exact f.isPlain_condition isPlain_mainRelation 1
  have hframed := framed_of_select hplain (rowsParams filter)
  cases filter with
  | none => exact hframed
  | some f =>
    show Query.Framed _ (Select.tokens
      ⟨"", some ((Filter.ofShape f.shape).condition mainRelation 1), some "", limit⟩)
      (table.table :: f.names ++ [table.idColumn]) (List.replicate f.uses 1) [f.tenant.text]
    rw [← f.masked_condition, ← f.names_condition mainRelation 1,
      ← f.positions_condition mainRelation 1]
    exact hframed

theorem framed_selectById (table : Table) (id : String) :
    (selectById table id).Framed byIdFrame [table.table, table.idColumn] [1] [id] :=
  framed_of_select rfl [id]

theorem framed_bind (f : Filter) {relation : String} (h : isPlain relation = true)
    (bound : List String) :
    (f.bind relation bound).Framed
      ((Filter.ofShape f.shape).condition relation (bound.length + 1)).tokens f.names
      (List.replicate f.uses (bound.length + 1)) (bound ++ [f.tenant.text]) := by
  have hframed := framed_of_cond (f.isPlain_condition h (bound.length + 1))
    (bound ++ [f.tenant.text])
  rwa [f.masked_condition, f.names_condition, f.positions_condition] at hframed

/-- **Statements are frames with names in them, and values are among their parameters only.** -/
theorem statements_framed :
    ∃ (listing : Option (Bool × Bool) → Option Nat → List Token) (byId : List Token)
      (clause : String → Bool × Bool → Nat → List Token),
      (∀ table filter limit, (selectRows table filter limit).Framed
        (listing (filter.map Filter.shape) limit) (listingNames table filter)
        ((filter.map fun f => List.replicate f.uses 1).getD [])
        (filter.map fun f => f.tenant.text).toList) ∧
      (∀ table id, (selectById table id).Framed byId [table.table, table.idColumn] [1] [id]) ∧
      (∀ (f : Filter) relation bound, isPlain relation = true → (f.bind relation bound).Framed
        (clause relation f.shape (bound.length + 1)) f.names
        (List.replicate f.uses (bound.length + 1)) (bound ++ [f.tenant.text])) ∧
      (∀ table f t limit, (selectRows table (some { f with tenant := t }) limit).sql =
        (selectRows table (some f) limit).sql) ∧
      ∀ table id id', (selectById table id).sql = (selectById table id').sql :=
  ⟨listingFrame, byIdFrame, fun relation shape index =>
    ((Filter.ofShape shape).condition relation index).tokens, framed_selectRows, framed_selectById,
    fun f _ bound h => framed_bind f h bound, fun _ _ _ _ => rfl, fun _ _ _ => rfl⟩

/-- Names that would end a statement, open a comment or refer to a parameter. -/
theorem statements_framed_sample :
    isPlain "main" = true ∧ ∃ outline,
      ((⟨"a\" OR 1=1; --", ⟨"'; DROP TABLE dbs; --"⟩, true, none⟩ : Filter).bind "main" ["7"]).Framed
        outline ["a\" OR 1=1; --", "a\" OR 1=1; --"] [2] ["7", "'; DROP TABLE dbs; --"] := by
  obtain ⟨-, -, clause, -, -, hclause, -⟩ := statements_framed
  exact ⟨by decide, _, hclause _ "main" ["7"] (by decide)⟩

end Sql

end Tenancy
