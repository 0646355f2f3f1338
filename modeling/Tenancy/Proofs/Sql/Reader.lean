import Mathlib.Data.List.Basic
import Tenancy.Proofs.Sql.Written

/-!
# Reading conditions

What a condition's text means is up to the server, which reads it by the precedence of its operators:
`AND` binds closer than `OR`, comparisons and tests bind closer than both, and only parentheses
change that. The tree that the text was written from counts only if it is the one that is read. It is
if the tree has its parentheses where the precedence asks for them (`ofSql?_sql`).
-/

set_option autoImplicit false

namespace Tenancy.Sql

/-- What reads a condition at the beginning of tokens, and leaves what is behind it. -/
abbrev Reader := List Token → Option (Cond × List Token)

/-! ## The grammar -/

def word? : List Token → Option (String × List Token)
  | .word text :: ts => some (text, ts)
  | _ => none

def name? : List Token → Option (String × List Token)
  | .name text :: ts => some (text, ts)
  | _ => none

/-- A column of a relation at the beginning of tokens. -/
def column? (ts : List Token) : Option ((String × String) × List Token) := do
  let (relation, ts) ← word? ts
  let ts ← [Token.mark '.'].isPrefixOf? ts
  let (name, ts) ← name? ts
  return ((relation, name), ts)

/-- A term at the beginning of tokens. -/
def Term.read? : List Token → Option (Term × List Token)
  | .param index :: ts => some (.param index, ts)
  | ts => do
    let ((relation, name), ts) ← column? ts
    match [Token.mark ':', .mark ':', .word "text"].isPrefixOf? ts with
    | some ts => return (.columnText relation name, ts)
    | none => return (.column relation name, ts)

namespace Cond

/-- An inner selection behind its opening parenthesis, and the parenthesis that closes it. -/
def readAmong? (a : Term) (inner : Reader) : Reader := fun ts => do
  let ((relation, column), ts) ← column? ts
  let ts ← [Token.word "from"].isPrefixOf? ts
  let (table, ts) ← name? ts
  let (known, ts) ← word? ts
  let ts ← [Token.word "where"].isPrefixOf? ts
  let (c, ts) ← inner ts
  let ts ← [Token.mark ')'].isPrefixOf? ts
  if relation = known then return (.among a column table known c, ts) else none

/-- What follows a term: a comparison, a test for null, or an inner selection. -/
def readTest? (a : Term) (inner : Reader) : Reader := fun ts =>
  match [Token.mark '='].isPrefixOf? ts with
  | some ts => do
    let (b, ts) ← Term.read? ts
    return (.equals a b, ts)
  | none =>
    match [Token.word "is", .word "null"].isPrefixOf? ts with
    | some ts => some (.isNull a, ts)
    | none => do
      let ts ← [Token.word "in", .mark '(', .word "select"].isPrefixOf? ts
      readAmong? a inner ts

/-- A term with a test of it, or a condition in parentheses. -/
def readOperand? (inner : Reader) : Reader := fun ts =>
  match [Token.mark '('].isPrefixOf? ts with
  | some ts => do
    let (c, ts) ← inner ts
    let ts ← [Token.mark ')'].isPrefixOf? ts
    return (.group c, ts)
  | none => do
    let (a, ts) ← Term.read? ts
    readTest? a inner ts

/-- Conditions with an operator between them, up to a number of them. They are joined from the right,
where the server joins them from the left, which makes no difference to their truth. -/
def readChain? (operator : Token) (join : Cond → Cond → Cond) (operand : Reader) : Nat → Reader
  | 0 => fun _ => none
  | n + 1 => fun ts => do
    let (a, ts) ← operand ts
    match [operator].isPrefixOf? ts with
    | some ts => do
      let (b, ts) ← readChain? operator join operand n ts
      return (join a b, ts)
    | none => return (a, ts)

/-- A condition whose parts are no more than a bound, in one another and side by side. -/
def read? : Nat → Reader
  | 0 => fun _ => none
  | n + 1 =>
    readChain? (.word "or") .or
      (readChain? (.word "and") .and (readOperand? (read? n)) (n + 1)) (n + 1)

/-- The condition that all of the tokens are. -/
def ofTokens? (ts : List Token) : Option Cond :=
  match read? (ts.length + 1) ts with
  | some (c, []) => some c
  | _ => none

/-- The condition that a text means. -/
def ofSql? (sql : String) : Option Cond := (tokens? sql).bind ofTokens?

end Cond

example : (Cond.ofSql? "x.\"a\" = $1 OR x.\"b\" IS NULL AND $1 = $2") =
    some (.or (.equals (.column "x" "a") (.param 1))
      (.and (.isNull (.column "x" "b")) (.equals (.param 1) (.param 2)))) := by cbv

/-! ## Conditions with their parentheses -/

namespace Cond

/-- How close the outermost operator of a condition binds. -/
def rank : Cond → Nat
  | .or _ _ => 0
  | .and _ _ => 1
  | _ => 2

/-- Whether a condition has parentheses wherever they change what is read. -/
def isGrouped : Cond → Bool
  | .or a b => 1 ≤ a.rank && a.isGrouped && b.isGrouped
  | .and a b => a.rank = 2 && 1 ≤ b.rank && a.isGrouped && b.isGrouped
  | .group c => c.isGrouped
  | .among _ _ _ _ c => c.isGrouped
  | _ => true

def size : Cond → Nat
  | .or a b => a.size + b.size + 1
  | .and a b => a.size + b.size + 1
  | .group c => c.size + 1
  | .among _ _ _ _ c => c.size + 1
  | _ => 1

theorem size_pos (c : Cond) : 0 < c.size := by
  cases c <;> exact Nat.succ_pos _

theorem size_le_length_tokens (c : Cond) : c.size ≤ c.tokens.length := by
  induction c <;> simp only [size, tokens, List.length_append, List.length_cons,
    List.length_nil] <;> omega

end Cond

/-- Nothing, or one of some tokens and what follows it. -/
def Behind (stops ts : List Token) : Prop := ∀ t ∈ ts.head?, t ∈ stops

/-- A reader reads a condition to its end, in front of certain tokens. -/
def Reads (r : Reader) (stops : List Token) (c : Cond) : Prop :=
  ∀ ts, Behind stops ts → r (c.tokens ++ ts) = some (c, ts)

theorem isPrefixOf?_append (es ts : List Token) : es.isPrefixOf? (es ++ ts) = some ts :=
  List.isPrefixOf?_eq_some_iff_append_eq.mpr rfl

theorem isPrefixOf?_of_head {e : Token} {ts : List Token} (h : e ∉ ts.head?) (es : List Token) :
    (e :: es).isPrefixOf? ts = none := by
  cases ts with
  | nil => rfl
  | cons t ts =>
    have hne : e ≠ t := fun heq => h (heq ▸ rfl)
    simp [List.isPrefixOf?, hne]

/-! ## Reading them back -/

theorem column?_tokens (relation name : String) (ts : List Token) :
    column? ((Term.column relation name).tokens ++ ts) = some ((relation, name), ts) := by
  simp [Term.tokens, column?, word?, name?, List.isPrefixOf?]

/-- A term is read to its end, unless a cast follows. -/
theorem Term.read?_tokens (t : Term) {ts : List Token} (h : Token.mark ':' ∉ ts.head?) :
    Term.read? (t.tokens ++ ts) = some (t, ts) := by
  have hcast := isPrefixOf?_of_head h [.mark ':', .word "text"]
  cases t with
  | column relation name =>
    simp [Term.tokens, Term.read?, column?, word?, name?, List.isPrefixOf?, hcast]
  | columnText relation name =>
    simp [Term.tokens, Term.read?, column?, word?, name?, List.isPrefixOf?]
  | param index => rfl

/-- No term begins with a mark. -/
theorem mark_not_mem_head? (t : Term) (c : Char) (ts : List Token) :
    Token.mark c ∉ (t.tokens ++ ts).head? := by
  cases t <;> simp [Term.tokens]

/-- A term in front of a test that is read is an operand that is read. -/
theorem Cond.readOperand?_of_test {a : Term} {inner : Reader} {ts rest : List Token} {c : Cond}
    (h : Token.mark ':' ∉ ts.head?) (htest : readTest? a inner ts = some (c, rest)) :
    readOperand? inner (a.tokens ++ ts) = some (c, rest) := by
  have hopen := isPrefixOf?_of_head (mark_not_mem_head? a '(' ts) []
  unfold readOperand?
  rw [hopen]
  show (Term.read? (a.tokens ++ ts)).bind _ = _
  rw [Term.read?_tokens a h]
  exact htest

section Chain

variable {operator : Token} {join : Cond → Cond → Cond} {operand : Reader} {stops : List Token}

/-- A condition without the operator is read as one operand. -/
theorem reads_chain_operand {c : Cond} (h : Reads operand (operator :: stops) c)
    (hstops : operator ∉ stops) (n : Nat) :
    Reads (Cond.readChain? operator join operand (n + 1)) stops c := by
  intro ts hts
  have hbehind : Behind (operator :: stops) ts := fun t ht => List.mem_cons_of_mem _ (hts t ht)
  have hend := isPrefixOf?_of_head (fun ht => hstops (hts _ ht)) []
  show (operand (c.tokens ++ ts)).bind _ = _
  rw [h ts hbehind, Option.bind_some]
  simp only [hend]
  rfl

/-- A condition with the operator is read as an operand and the rest of the chain. -/
theorem reads_chain_join {a b : Cond} (ha : Reads operand (operator :: stops) a) {n : Nat}
    (hb : Reads (Cond.readChain? operator join operand n) stops b)
    (hjoin : (join a b).tokens = a.tokens ++ operator :: b.tokens) :
    Reads (Cond.readChain? operator join operand (n + 1)) stops (join a b) := by
  intro ts hts
  have hbehind : Behind (operator :: stops) (operator :: (b.tokens ++ ts)) := by
    intro t ht
    obtain rfl := Option.some.inj ht
    exact List.mem_cons_self
  have hoperator := isPrefixOf?_append [operator] (b.tokens ++ ts)
  rw [hjoin, List.append_assoc, List.cons_append]
  show (operand (a.tokens ++ operator :: (b.tokens ++ ts))).bind _ = _
  rw [ha _ hbehind, Option.bind_some]
  simp only [List.singleton_append] at hoperator
  simp only [hoperator, hb ts hts]
  rfl

end Chain

/-! ## Operands -/

section Operands

variable {inner : Reader}

/-- What can stand behind an operand: another one with its operator, or a closing parenthesis. -/
def operandStops : List Token := [.word "and", .word "or", .mark ')']

theorem not_mem_head?_of_behind {stops ts : List Token} {t : Token} (ht : t ∉ stops)
    (h : Behind stops ts) : t ∉ ts.head? := fun hmem => ht (h t hmem)

theorem reads_equals (a b : Term) : Reads (Cond.readOperand? inner) operandStops (.equals a b) := by
  intro ts hts
  have hb := Term.read?_tokens b (not_mem_head?_of_behind (t := .mark ':') (by decide) hts)
  have htest : Cond.readTest? a inner (.mark '=' :: (b.tokens ++ ts)) = some (.equals a b, ts) := by
    show (Term.read? (b.tokens ++ ts)).bind _ = _
    rw [hb]
    rfl
  rw [Cond.tokens, List.append_assoc, List.cons_append]
  exact Cond.readOperand?_of_test (by simp) htest

theorem reads_isNull (a : Term) : Reads (Cond.readOperand? inner) operandStops (.isNull a) := by
  intro ts _
  rw [Cond.tokens, List.append_assoc]
  exact Cond.readOperand?_of_test (by simp) rfl

theorem reads_group {c : Cond} (h : Reads inner [.mark ')'] c) :
    Reads (Cond.readOperand? inner) operandStops (.group c) := by
  intro ts _
  have hinner := h (.mark ')' :: ts) (by simp [Behind])
  rw [Cond.tokens, List.cons_append, List.cons_append, List.append_assoc]
  show (inner (c.tokens ++ .mark ')' :: ts)).bind _ = _
  rw [hinner]
  rfl

theorem readTest?_in (a : Term) (ts : List Token) :
    Cond.readTest? a inner (.word "in" :: .mark '(' :: .word "select" :: ts) =
      Cond.readAmong? a inner ts := rfl

theorem reads_among (a : Term) (column table relation : String) {c : Cond}
    (h : Reads inner [.mark ')'] c) :
    Reads (Cond.readOperand? inner) operandStops (.among a column table relation c) := by
  intro ts _
  have hinner := h (.mark ')' :: ts) (by simp [Behind])
  have hamong : Cond.readAmong? a inner ((Term.column relation column).tokens ++
      (.word "from" :: .name table :: .word relation :: .word "where" ::
        (c.tokens ++ .mark ')' :: ts))) = some (.among a column table relation c, ts) := by
    simp [Cond.readAmong?, column?_tokens, name?, word?, List.isPrefixOf?, hinner]
  rw [← readTest?_in] at hamong
  have hread := Cond.readOperand?_of_test (by simp) hamong
  simpa [Cond.tokens] using hread

end Operands

/-! ## Conditions -/

/-- What is read of a condition on each level, within the bounds of the reading. -/
structure ReadsBack (c : Cond) : Prop where
  operand : c.rank = 2 → ∀ n, c.size ≤ n + 1 →
    Reads (Cond.readOperand? (Cond.read? n)) operandStops c
  conjunction : 1 ≤ c.rank → ∀ n k, c.size ≤ n + 1 → c.size ≤ k →
    Reads (Cond.readChain? (.word "and") .and (Cond.readOperand? (Cond.read? n)) k)
      [.word "or", .mark ')'] c
  disjunction : ∀ n k l, c.size ≤ n + 1 → c.size ≤ k → c.size ≤ l →
    Reads (Cond.readChain? (.word "or") .or
      (Cond.readChain? (.word "and") .and (Cond.readOperand? (Cond.read? n)) k) l)
      [.mark ')'] c

namespace ReadsBack

theorem reads {c : Cond} (h : ReadsBack c) {n : Nat} (hn : c.size ≤ n) :
    Reads (Cond.read? n) [.mark ')'] c := by
  obtain ⟨n, rfl⟩ := Nat.exists_eq_add_one.mpr (Nat.lt_of_lt_of_le c.size_pos hn)
  exact h.disjunction n (n + 1) (n + 1) hn hn hn

/-- What is read as a conjunction is read as a condition. -/
theorem of_conjunction {c : Cond} (hrank : c.rank = 1)
    (h : ∀ n k, c.size ≤ n + 1 → c.size ≤ k →
      Reads (Cond.readChain? (.word "and") .and (Cond.readOperand? (Cond.read? n)) k)
        [.word "or", .mark ')'] c) : ReadsBack c where
  operand hoperand := absurd (hrank.symm.trans hoperand) (by decide)
  conjunction _ := h
  disjunction n k l hn hk hl := by
    obtain ⟨l, rfl⟩ := Nat.exists_eq_add_one.mpr (Nat.lt_of_lt_of_le c.size_pos hl)
    exact reads_chain_operand (h n k hn hk) (by decide) l

/-- What is read as an operand is read as a conjunction, and as a condition. -/
theorem of_operand {c : Cond}
    (h : ∀ n, c.size ≤ n + 1 → Reads (Cond.readOperand? (Cond.read? n)) operandStops c) :
    ReadsBack c := by
  have hconjunction : ∀ n k, c.size ≤ n + 1 → c.size ≤ k →
      Reads (Cond.readChain? (.word "and") .and (Cond.readOperand? (Cond.read? n)) k)
        [.word "or", .mark ')'] c := by
    intro n k hn hk
    obtain ⟨k, rfl⟩ := Nat.exists_eq_add_one.mpr (Nat.lt_of_lt_of_le c.size_pos hk)
    exact reads_chain_operand (h n hn) (by decide) k
  refine ⟨fun _ => h, fun _ => hconjunction, fun n k l hn hk hl => ?_⟩
  obtain ⟨l, rfl⟩ := Nat.exists_eq_add_one.mpr (Nat.lt_of_lt_of_le c.size_pos hl)
  exact reads_chain_operand (hconjunction n k hn hk) (by decide) l

end ReadsBack

/-- By induction on the condition: its parts are read on the levels that its parentheses leave them
on. -/
theorem readsBack {c : Cond} (h : c.isGrouped = true) : ReadsBack c := by
  induction c with
  | equals a b => exact .of_operand fun _ _ => reads_equals a b
  | isNull a => exact .of_operand fun _ _ => reads_isNull a
  | or a b iha ihb =>
    simp only [Cond.isGrouped, Bool.and_eq_true, decide_eq_true_eq] at h
    obtain ⟨⟨hrank, ha⟩, hb⟩ := h
    refine ⟨fun h => absurd h (by simp [Cond.rank]), fun h => absurd h (by simp [Cond.rank]), ?_⟩
    intro n k l hn hk hl
    simp only [Cond.size] at hn hk hl
    obtain ⟨l, rfl⟩ := Nat.exists_eq_add_one.mpr (Nat.lt_of_lt_of_le (Nat.succ_pos _) hl)
    exact reads_chain_join ((iha ha).conjunction hrank n k (by omega) (by omega))
      ((ihb hb).disjunction n k l (by omega) (by omega) (by omega)) rfl
  | and a b iha ihb =>
    simp only [Cond.isGrouped, Bool.and_eq_true, decide_eq_true_eq] at h
    obtain ⟨⟨⟨hranka, hrankb⟩, ha⟩, hb⟩ := h
    refine .of_conjunction rfl fun n k hn hk => ?_
    simp only [Cond.size] at hn hk
    obtain ⟨k, rfl⟩ := Nat.exists_eq_add_one.mpr (Nat.lt_of_lt_of_le (Nat.succ_pos _) hk)
    exact reads_chain_join ((iha ha).operand hranka n (by omega))
      ((ihb hb).conjunction hrankb n k (by omega) (by omega)) rfl
  | group c ih =>
    exact .of_operand fun n hn => reads_group ((ih h).reads (Nat.le_of_succ_le_succ hn))
  | among a column table relation c ih =>
    exact .of_operand fun n hn =>
      reads_among a column table relation ((ih h).reads (Nat.le_of_succ_le_succ hn))

/-- **A condition with its parentheses is what its text means.** -/
theorem Cond.ofSql?_sql {c : Cond} (hplain : c.isPlain = true) (hgrouped : c.isGrouped = true) :
    Cond.ofSql? c.sql = some c := by
  have hsize : c.size ≤ c.tokens.length + 1 := Nat.le_succ_of_le c.size_le_length_tokens
  have hread := (readsBack hgrouped).reads hsize [] (by simp [Behind])
  rw [List.append_nil] at hread
  rw [ofSql?, (lexes_cond hplain).tokens?, Option.bind_some, ofTokens?, hread]

end Tenancy.Sql
