import Tenancy.Proofs.Database.Run

/-!
# Programs that are cut off

A statement may fail for reasons that the database's contents do not show: it is refused, or it is
executed and the reply is lost. `interrupted` is a database in which statements meet such a fate,
each the next one of a list; when the list is used up, all goes well.

A program that stops at a fault, and at the first one, does what it would have done anyway up to
there (`run_cut`). What each statement it may ask for preserves is preserved by the program, wherever
it is cut off (`state_interrupted`).
-/

set_option autoImplicit false

namespace Tenancy.Database

/-- What becomes of a statement. -/
inductive Fate where
  | served
  | refused (fault : DatabaseFault)
  | lost (fault : DatabaseFault)

/-- The fault that a statement's fate is seen as. -/
def Fate.fault? : Fate → Option DatabaseFault
  | served => none
  | refused fault => some fault
  | lost fault => some fault

namespace Program

variable {α β σ : Type} (database : σ → Statement → Reply × σ)

/-- A database whose statements meet the fates of a list, one after the other. -/
def interrupted : σ × List Fate → Statement → Reply × (σ × List Fate)
  | (s, []), st => ((database s st).1, ((database s st).2, []))
  | (s, .served :: fates), st => ((database s st).1, ((database s st).2, fates))
  | (s, .refused fault :: fates), _ => (.error fault, (s, fates))
  | (s, .lost fault :: fates), st => (.error fault, ((database s st).2, fates))

/-- With no fates left, nothing is different. -/
theorem run_interrupted_nil (s : σ) (p : Program α) :
    (p.run (interrupted database) (s, [])).answer = (p.run database s).answer ∧
      (p.run (interrupted database) (s, [])).state.1 = (p.run database s).state := by
  induction p generalizing s with
  | done x => exact ⟨rfl, rfl⟩
  | log e rest ih => exact ih s
  | ask st next ih => exact ih (database s st).1 (database s st).2

/-! ## Where a program stops -/

/-- A fault ends the program, and is its answer. -/
def Stops : Program α → Prop
  | done _ => True
  | log _ rest => rest.Stops
  | ask _ next =>
    (∀ fault, next (.error fault) = done (.error (.database fault))) ∧
      ∀ rows, (next (.ok rows)).Stops

/-- All statements of the program are among some. -/
def Asks (P : Statement → Prop) : Program α → Prop
  | done _ => True
  | log _ rest => rest.Asks P
  | ask st next => P st ∧ ∀ reply, (next reply).Asks P

theorem stops_pure (a : α) : (pure a : Program α).Stops := trivial

theorem stops_throw (e : Error) : (throw e : Program α).Stops := trivial

theorem stops_note (e : Event) : (note e : Program PUnit).Stops := trivial

theorem stops_read (x : Except DatabaseFault α) : (read x).Stops := trivial

theorem stops_query (st : Statement) : (query st).Stops := ⟨fun _ => rfl, fun _ => trivial⟩

theorem stops_execute (st : Statement) : (execute st).Stops := ⟨fun _ => rfl, fun _ => trivial⟩

theorem Stops.bind {p : Program α} {f : α → Program β} (hp : p.Stops) (hf : ∀ a, (f a).Stops) :
    (p >>= f).Stops := by
  show (p.bind f).Stops
  induction p with
  | done x =>
    cases x with
    | ok a => exact hf a
    | error e => exact trivial
  | log e rest ih => exact ih hp
  | ask st next ih =>
    obtain ⟨hfault, hrows⟩ := hp
    refine ⟨?_, fun rows => ih (.ok rows) (hrows rows)⟩
    intro fault
    show (next (.error fault)).bind f = _
    rw [hfault]
    rfl

section Asks

variable {P : Statement → Prop}

theorem asks_pure (a : α) : (pure a : Program α).Asks P := trivial

theorem asks_note (e : Event) : (note e : Program PUnit).Asks P := trivial

theorem asks_read (x : Except DatabaseFault α) : (read x).Asks P := trivial

theorem asks_throw (e : Error) : (throw e : Program α).Asks P := trivial

theorem asks_query {st : Statement} (h : P st) : (query st).Asks P := by
  refine ⟨h, ?_⟩
  intro reply
  cases reply <;> exact trivial

theorem asks_execute {st : Statement} (h : P st) : (execute st).Asks P := by
  refine ⟨h, ?_⟩
  intro reply
  cases reply <;> exact trivial

theorem Asks.bind {p : Program α} {f : α → Program β} (hp : p.Asks P) (hf : ∀ a, (f a).Asks P) :
    (p >>= f).Asks P := by
  show (p.bind f).Asks P
  induction p with
  | done x =>
    cases x with
    | ok a => exact hf a
    | error e => exact trivial
  | log e rest ih => exact ih hp
  | ask st next ih => exact ⟨hp.1, fun reply => ih reply (hp.2 reply)⟩

end Asks

/-! ## What is left of a run -/

/-- **A program that is cut off** has executed what it would have executed anyway, up to the
statement that failed; nothing comes after that one, and its fault is the answer. -/
theorem run_cut {p : Program α} (hp : p.Stops) {fate : Fate} {fault : DatabaseFault}
    (hfate : fate.fault? = some fault) (later : List Fate) {k : Nat} {s : σ}
    (hk : k < (p.run database s).statements.length) :
    (p.run (interrupted database) (s, List.replicate k .served ++ fate :: later)).answer =
        .error (.database fault) ∧
      (p.run (interrupted database) (s, List.replicate k .served ++ fate :: later)).statements =
        (p.run database s).statements.take (k + 1) := by
  induction p generalizing s k with
  | done x => exact absurd hk (Nat.not_lt_zero k)
  | log e rest ih => exact ih hp hk
  | ask st next ih =>
    obtain ⟨hfault, hrows⟩ := hp
    cases k with
    | zero =>
      have hreply : (interrupted database (s, fate :: later) st).1 = .error fault := by
        cases fate with
        | served => cases hfate
        | refused fault' =>
          cases hfate
          rfl
        | lost fault' =>
          cases hfate
          rfl
      show (run _ _ (next (interrupted database (s, fate :: later) st).1)).answer = _ ∧
        st :: (run _ _ (next (interrupted database (s, fate :: later) st).1)).statements = [st]
      rw [hreply, hfault]
      exact ⟨rfl, rfl⟩
    | succ k =>
      have hk' : k < ((next (database s st).1).run database (database s st).2).statements.length :=
        Nat.lt_of_succ_lt_succ hk
      -- a database may answer with a fault of its own; the program is at its end then
      have hnext : (next (database s st).1).Stops := by
        cases (database s st).1 with
        | ok rows => exact hrows rows
        | error fault' =>
          rw [hfault]
          exact trivial
      obtain ⟨hanswer, hstatements⟩ := ih (database s st).1 hnext hk'
      exact ⟨hanswer, congrArg (st :: ·) hstatements⟩

/-- **What every statement preserves** that a program may ask for, the program preserves, wherever it
is cut off. -/
theorem state_interrupted {P : Statement → Prop} {I : σ → Prop} {p : Program α} (hp : p.Asks P)
    (hI : ∀ s st, P st → I s → I (database s st).2) {s : σ} (hs : I s) (fates : List Fate) :
    I (p.run (interrupted database) (s, fates)).state.1 := by
  induction p generalizing s fates with
  | done x => exact hs
  | log e rest ih => exact ih hp hs fates
  | ask st next ih =>
    obtain ⟨hst, hnext⟩ := hp
    cases fates with
    | nil => exact ih _ (hnext _) (hI s st hst hs) []
    | cons fate fates =>
      cases fate with
      | served => exact ih _ (hnext _) (hI s st hst hs) fates
      | refused fault => exact ih _ (hnext _) hs fates
      | lost fault => exact ih _ (hnext _) (hI s st hst hs) fates

/-- What every statement preserves, a program preserves that is not cut off. -/
theorem state_run {P : Statement → Prop} {I : σ → Prop} {p : Program α} (hp : p.Asks P)
    (hI : ∀ s st, P st → I s → I (database s st).2) {s : σ} (hs : I s) :
    I (p.run database s).state := by
  rw [← (run_interrupted_nil database s p).2]
  exact state_interrupted database hp hI hs []

end Program

end Tenancy.Database
