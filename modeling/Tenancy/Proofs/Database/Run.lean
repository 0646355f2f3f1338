import Tenancy.Database.Catalog
import Tenancy.Gate
import Tenancy.Proofs.Sql.Meaning

/-!
# Running programs

A program asks, and what it answers depends on the replies alone. Between two statements the
database may become another one: what it replies to the second then has nothing to do with what it
replied to the first. `session` runs a program against any function that replies to statements and
moves on to its next state, so whatever is shown of it holds of every sequence of replies. `answer`
is its answer where the database stays as it is. One equation for each way in which programs are put
together says what they are.
-/

set_option autoImplicit false

namespace Tenancy.Database.Program

variable {α β : Type}

/-! ## Against a database that changes -/

section Session

variable {σ : Type} (database : σ → Statement → Reply × σ)

/-- What a program answers against a database in a state, and the state that it leaves behind. -/
def session (s : σ) (p : Program α) : Except Error α × σ :=
  ((p.run database s).answer, (p.run database s).state)

variable (s : σ)

@[simp] theorem session_pure (a : α) : session database s (pure a) = (.ok a, s) := rfl

@[simp] theorem session_throw (e : Error) :
    session database s (throw e : Program α) = (.error e, s) := rfl

@[simp] theorem session_note (e : Event) : session database s (note e) = (.ok ⟨⟩, s) := rfl

@[simp] theorem session_read (x : Except DatabaseFault α) :
    session database s (read x) = (x.mapError .database, s) := rfl

theorem session_ask (st : Statement) (next : Reply → Program α) :
    session database s (ask st next) =
      session database (database s st).2 (next (database s st).1) := rfl

theorem session_query (st : Statement) :
    session database s (query st) =
      ((database s st).1.mapError .database, (database s st).2) := by
  rw [query, session_ask]
  cases (database s st).1 <;> rfl

theorem session_execute (st : Statement) :
    session database s (execute st) =
      (((database s st).1.map fun _ => ()).mapError .database, (database s st).2) := by
  rw [execute, session_ask]
  cases (database s st).1 <;> rfl

/-- A program goes on where the one before it stopped, with what that one answered, unless it
failed. The induction is on the program that goes first; the state is general, since each reply
comes with another one. -/
theorem session_bind (p : Program α) (f : α → Program β) :
    session database s (p >>= f) =
      match session database s p with
      | (.ok a, s') => session database s' (f a)
      | (.error e, s') => (.error e, s') := by
  show session database s (p.bind f) = _
  induction p generalizing s with
  | done x => cases x <;> rfl
  | log e rest ih => exact ih s
  | ask st next ih => exact ih (database s st).1 (database s st).2

theorem session_bind_ok {p : Program α} {a : α} {s' : σ}
    (h : session database s p = (.ok a, s')) (f : α → Program β) :
    session database s (p >>= f) = session database s' (f a) := by
  rw [session_bind, h]

theorem session_map {p : Program α} {x : Except Error α} {s' : σ}
    (h : session database s p = (x, s')) (f : α → β) :
    session database s (f <$> p) = (x.map f, s') := by
  have hmap : f <$> p = p >>= fun a => pure (f a) := rfl
  rw [hmap, session_bind, h]
  cases x <;> rfl

end Session

/-! ## Against one that stays as it is -/

/-- What a program answers if each statement gets its reply from a function. -/
def answer (replies : Statement → Reply) (p : Program α) : Except Error α :=
  (p.run (fun (_ : Unit) s => (replies s, ())) ()).answer

section Answer

variable (replies : Statement → Reply)

/-- Nothing is left behind but the answer. -/
theorem session_const (p : Program α) :
    session (fun (_ : Unit) st => (replies st, ())) () p = (answer replies p, ()) := rfl

@[simp] theorem answer_pure (a : α) : answer replies (pure a) = .ok a := rfl

@[simp] theorem answer_throw (e : Error) : answer replies (throw e : Program α) = .error e := rfl

@[simp] theorem answer_note (e : Event) : answer replies (note e) = .ok ⟨⟩ := rfl

@[simp] theorem answer_read (x : Except DatabaseFault α) :
    answer replies (read x) = x.mapError .database := rfl

theorem answer_query (s : Statement) :
    answer replies (query s) = (replies s).mapError .database :=
  congrArg Prod.fst (session_query (fun (_ : Unit) st => (replies st, ())) () s)

/-- A program goes on with what the one before it answered, unless that failed. -/
theorem answer_bind (p : Program α) (f : α → Program β) :
    answer replies (p >>= f) =
      match answer replies p with
      | .ok a => answer replies (f a)
      | .error e => .error e := by
  have h := session_bind (fun (_ : Unit) st => (replies st, ())) () p f
  rw [session_const, session_const] at h
  refine (congrArg Prod.fst h).trans ?_
  cases answer replies p <;> rfl

theorem answer_bind_ok {p : Program α} {a : α} (h : answer replies p = .ok a)
    (f : α → Program β) : answer replies (p >>= f) = answer replies (f a) := by
  rw [answer_bind, h]

end Answer

end Tenancy.Database.Program
