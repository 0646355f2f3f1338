import Tenancy.Filter
import Tenancy.Proofs.Sql.Token

/-!
# Statements, as tokens

The text of a tree is cut into the tokens of the tree, if the names of its relations are plain words:
every name is one delimited name and every parameter one parameter (`tokens?_select`). The tokens of
a tree without its names are those of the tree without its names, so the rest of a statement is known
without knowing any name.
-/

set_option autoImplicit false

namespace Tenancy

namespace Sql

/-! ## The tokens of trees -/

def Term.tokens : Term → List Token
  | .column relation name => [.word relation, .mark '.', .name name]
  | .columnText relation name =>
    [.word relation, .mark '.', .name name, .mark ':', .mark ':', .word "text"]
  | .param index => [.param index]

theorem Term.tokens_column (relation name : String) :
    (Term.column relation name).tokens = [.word relation, .mark '.', .name name] := rfl

def Cond.tokens : Cond → List Token
  | .equals a b => a.tokens ++ .mark '=' :: b.tokens
  | .isNull a => a.tokens ++ [.word "is", .word "null"]
  | .or a b => a.tokens ++ .word "or" :: b.tokens
  | .and a b => a.tokens ++ .word "and" :: b.tokens
  | .group c => .mark '(' :: c.tokens ++ [.mark ')']
  | .among a column table relation c =>
    a.tokens ++ [.word "in", .mark '(', .word "select"] ++
      (Term.column relation column).tokens ++
      [.word "from", .name table, .word relation, .word "where"] ++ c.tokens ++ [.mark ')']

def Select.tokens (s : Select) : List Token :=
  [.word "select", .word "row_to_json", .mark '(', .word mainRelation, .mark ')', .word "from",
      .name s.table, .word mainRelation] ++
    (s.condition.elim [] fun c => [.word "where"] ++ c.tokens) ++
    (s.orderBy.elim [] fun column =>
      [.word "order", .word "by"] ++ (Term.column mainRelation column).tokens) ++
    (s.limit.elim [] fun n => [.word "limit"] ++ [.number n])

/-! ## Their texts -/

/-- Whether the relation of a term is a plain word. -/
def Term.isPlain : Term → Bool
  | .column relation _ => Sql.isPlain relation
  | .columnText relation _ => Sql.isPlain relation
  | .param _ => true

/-- Whether all relations of a condition are plain words. -/
def Cond.isPlain : Cond → Bool
  | .equals a b => a.isPlain && b.isPlain
  | .isNull a => a.isPlain
  | .or a b => a.isPlain && b.isPlain
  | .and a b => a.isPlain && b.isPlain
  | .group c => c.isPlain
  | .among a _ _ relation c => a.isPlain && Sql.isPlain relation && c.isPlain

theorem lexes_column {relation : String} (h : isPlain relation = true) (name : String) :
    Lexes (Term.column relation name).sql (Term.column relation name).tokens :=
  ((lexes_word h).opens "." [.mark '.'] rfl rfl).append (lexes_quoted name)

theorem lexes_term {t : Term} (h : t.isPlain = true) : Lexes t.sql t.tokens := by
  cases t with
  | column relation name => exact lexes_column h name
  | columnText relation name =>
    exact (lexes_column h name).append
      (.of_run [.mark ':', .mark ':'] (.word "text".toList) rfl rfl) rfl
  | param index => exact lexes_param index

theorem lexes_among {a : Term} {relation : String} {c : Cond} (ha : Lexes a.sql a.tokens)
    (hrelation : isPlain relation = true) (hc : Lexes c.sql c.tokens) (column table : String) :
    Lexes (Cond.among a column table relation c).sql
      (Cond.among a column table relation c).tokens := by
  have hword := lexes_word hrelation
  have hopen := ha.opens " IN (SELECT " [.word "in", .mark '(', .word "select"] rfl rfl
  have hcolumn := ((hopen.append hword).opens "." [.mark '.'] rfl rfl).append (lexes_quoted column)
  have htable := (hcolumn.opens " FROM " [.word "from"] rfl rfl).append (lexes_quoted table)
  have hfrom := (htable.opens " " [] rfl rfl).append hword
  have hwhere := (hfrom.opens " WHERE " [.word "where"] rfl rfl).append hc
  have hall := hwhere.append (b := ")") (.of_run [.mark ')'] .between rfl rfl) rfl
  simpa [Cond.sql, Cond.tokens, Term.tokens_column] using hall

/-- **The text of a condition is cut into the tokens of the condition.** -/
theorem lexes_cond {c : Cond} (h : c.isPlain = true) : Lexes c.sql c.tokens := by
  induction c with
  | equals a b =>
    obtain ⟨ha, hb⟩ := Bool.and_eq_true_iff.mp h
    simpa [Cond.sql, Cond.tokens] using
      ((lexes_term ha).opens " = " [.mark '='] rfl rfl).append (lexes_term hb)
  | isNull a =>
    exact (lexes_term h).append (.of_run [.word "is"] (.word "NULL".toList) rfl rfl) rfl
  | or a b iha ihb =>
    obtain ⟨ha, hb⟩ := Bool.and_eq_true_iff.mp h
    simpa [Cond.sql, Cond.tokens] using
      ((iha ha).opens " OR " [.word "or"] rfl rfl).append (ihb hb)
  | and a b iha ihb =>
    obtain ⟨ha, hb⟩ := Bool.and_eq_true_iff.mp h
    simpa [Cond.sql, Cond.tokens] using
      ((iha ha).opens " AND " [.word "and"] rfl rfl).append (ihb hb)
  | group c ih =>
    have hinner : Lexes ("(" ++ c.sql) ([.mark '('] ++ c.tokens) :=
      (Opens.of_run rfl).append (ih h)
    exact hinner.append (.of_run [.mark ')'] .between rfl rfl) rfl
  | among a column table relation c ih =>
    obtain ⟨h, hc⟩ := Bool.and_eq_true_iff.mp h
    obtain ⟨ha, hrelation⟩ := Bool.and_eq_true_iff.mp h
    exact lexes_among (lexes_term ha) hrelation (ih hc) column table

theorem isPlain_mainRelation : isPlain mainRelation = true := by decide

/-- A clause that is written behind its lead, if it is there. -/
theorem Lexes.clause {α : Type} {text : α → String} {tokens : α → List Token} {x : Option α}
    (htext : ∀ a ∈ x, Lexes (text a) (tokens a)) {s : String} {ts : List Token} (hs : Lexes s ts)
    (lead : String) (us : List Token) (hlead : Place.between.run lead.toList = (us, .between))
    (hend : lead.toList.head?.any isEnd = true) :
    Lexes (s ++ x.elim "" fun a => lead ++ text a) (ts ++ x.elim [] fun a => us ++ tokens a) := by
  cases x with
  | none => simpa using hs
  | some a =>
    have hclause := (hs.opens lead us hlead hend).append (htext a rfl)
    simpa [String.append_assoc] using hclause

theorem Select.sql_eq (s : Select) : s.sql =
    "SELECT row_to_json(" ++ mainRelation ++ ") FROM " ++ quoted s.table ++ " " ++ mainRelation ++
      (s.condition.elim "" fun c => " WHERE " ++ c.sql) ++
      (s.orderBy.elim "" fun column => " ORDER BY " ++ (Term.column mainRelation column).sql) ++
      (s.limit.elim "" fun n => " LIMIT " ++ toString n) := by
  obtain ⟨table, condition, orderBy, limit⟩ := s
  cases condition <;> cases orderBy <;> cases limit <;> rfl

/-- **The text of a selection is cut into the tokens of the selection.** -/
theorem tokens?_select {s : Select} (h : s.condition.all Cond.isPlain = true) :
    tokens? s.sql = some s.tokens := by
  have hword := lexes_word isPlain_mainRelation
  have hcond : ∀ c ∈ s.condition, Lexes c.sql c.tokens := fun c hc =>
    lexes_cond ((Option.all_eq_true _ _).mp h c hc)
  have hrow : Lexes ("SELECT row_to_json(" ++ mainRelation)
      ([.word "select", .word "row_to_json", .mark '('] ++ [.word mainRelation]) :=
    (Opens.of_run rfl).append hword
  have htable := (hrow.opens ") FROM " [.mark ')', .word "from"] rfl rfl).append
    (lexes_quoted s.table)
  have hfrom : Lexes
      ("SELECT row_to_json(" ++ mainRelation ++ ") FROM " ++ quoted s.table ++ " " ++ mainRelation)
      [.word "select", .word "row_to_json", .mark '(', .word mainRelation, .mark ')',
        .word "from", .name s.table, .word mainRelation] :=
    (htable.opens " " [] rfl rfl).append hword
  have hwhere := Lexes.clause hcond hfrom " WHERE " [.word "where"] rfl rfl
  have horder := Lexes.clause (x := s.orderBy)
    (fun column _ => lexes_column isPlain_mainRelation column) hwhere
    " ORDER BY " [.word "order", .word "by"] rfl rfl
  have hlimit := Lexes.clause (x := s.limit) (fun n _ => lexes_number n) horder
    " LIMIT " [.word "limit"] rfl rfl
  rw [Select.sql_eq]
  exact hlimit.tokens?

end Sql

/-- Filters are written with plain words for the rows that they are about, and for owners. -/
theorem Filter.isPlain_condition (f : Filter) {relation : String}
    (h : Sql.isPlain relation = true) (index : Nat) :
    (f.condition relation index).isPlain = true := by
  have howner : Sql.isPlain ownerRelation = true := by decide
  unfold condition ownCondition ownerCondition
  cases f.owner <;> cases f.includeUnscoped <;>
    simp [Sql.Cond.isPlain, Sql.Term.isPlain, h, howner]

end Tenancy
