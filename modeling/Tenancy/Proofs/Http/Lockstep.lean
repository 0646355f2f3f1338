import Tenancy.Proofs.Gate.View
import Tenancy.Proofs.Http.Resources
import Tenancy.Proofs.Http.Timeless
import Tenancy.Proofs.Resolution.Steps

/-!
# Two runs side by side

To compare what a service answers to two sequences of requests, the two are run side by side.
Handlers are in `Lockstep` for a relation between states if from states that are so related they
answer alike, at some closeness, and leave states that are so related again; each way of putting
handlers together has one rule for it. The relation between states is general: whoever touches
neither directory nor cache keeps any relation between them.

Of the endpoints, those of administration are the only ones that touch either, and behind the check
for an administrator only. So two requests of which the service reads the same are answered alike
whatever directories and caches are like, if no administrator asks (`lockstep_handle`); if one does,
directories that are alike, and equal caches, stay so.
-/

set_option autoImplicit false

namespace Tenancy.Http

/-! ## Handlers in lockstep -/

/-- Two responses are alike, as closely as they are compared. -/
def Response.Alike (k : Closeness) (r r' : Response) : Prop := r.seen k = r'.seen k

/-- Two answers of handlers, which are related, or are responses that are alike. -/
inductive Answered {α β : Type} (k : Closeness) (R : α → β → Prop) :
    Except Response α → Except Response β → Prop
  | ok {a : α} {b : β} : R a b → Answered k R (.ok a) (.ok b)
  | error {e e' : Response} : Response.Alike k e e' → Answered k R (.error e) (.error e')

/-- From related states, two handlers answer alike and leave related states. -/
def Handler.Lockstep {α β : Type} (k : Closeness) (S : State → State → Prop) (R : α → β → Prop)
    (x : Handler α) (x' : Handler β) : Prop :=
  ∀ st st', S st st' →
    Answered k R (x.outcome st).1 (x'.outcome st').1 ∧ S (x.outcome st).2 (x'.outcome st').2

namespace Handler

section Rules

variable {k : Closeness} {α β γ δ : Type} {S : State → State → Prop} {Q : α → β → Prop}
  {R : γ → δ → Prop} {x : Handler α} {x' : Handler β} {f : α → Handler γ}
  {f' : β → Handler δ}

theorem lockstep_pure {c : γ} {d : δ} (h : R c d) : Lockstep k S R (pure c) (pure d) :=
  fun _ _ hS => ⟨.ok h, hS⟩

theorem lockstep_throw (e : Response) :
    Lockstep k S R (throw e : Handler γ) (throw e : Handler δ) :=
  fun _ _ hS => ⟨.error rfl, hS⟩

/-- Handlers that leave every state as it is are in lockstep if their answers are alike. -/
theorem lockstep_still {a : Except Response α} {b : Except Response β}
    (hx : ∀ st, x.outcome st = (a, st)) (hx' : ∀ st, x'.outcome st = (b, st))
    (h : Answered k Q a b) : Lockstep k S Q x x' := by
  intro st st' hS
  rw [hx, hx']
  exact ⟨h, hS⟩

/-- Handlers that leave every state as it is and find the same find equals. -/
theorem lockstep_found {x₁ x₂ : Handler α} {a : Except Response α}
    (h₁ : ∀ st, x₁.outcome st = (a, st)) (h₂ : ∀ st, x₂.outcome st = (a, st)) :
    Lockstep k S Eq x₁ x₂ := by
  refine lockstep_still h₁ h₂ ?_
  cases a with
  | ok a => exact .ok rfl
  | error e => exact .error rfl

theorem Lockstep.mono {Q' : α → β → Prop} (hx : Lockstep k S Q x x') (h : ∀ a b, Q a b → Q' a b) :
    Lockstep k S Q' x x' := by
  intro st st' hS
  obtain ⟨hanswer, hstates⟩ := hx st st' hS
  refine ⟨?_, hstates⟩
  generalize (x.outcome st).1 = a at hanswer ⊢
  generalize (x'.outcome st').1 = b at hanswer ⊢
  cases hanswer with
  | ok hq => exact .ok (h _ _ hq)
  | error he => exact .error he

theorem Lockstep.bind (hx : Lockstep k S Q x x') (hf : ∀ a b, Q a b → Lockstep k S R (f a) (f' b)) :
    Lockstep k S R (x >>= f) (x' >>= f') := by
  intro st st' hS
  obtain ⟨hanswer, hstates⟩ := hx st st' hS
  rw [outcome_bind, outcome_bind]
  generalize x.outcome st = out at hanswer hstates
  generalize x'.outcome st' = out' at hanswer hstates
  obtain ⟨answer, st₁⟩ := out
  obtain ⟨answer', st₁'⟩ := out'
  cases hanswer with
  | ok hq => exact hf _ _ hq _ _ hstates
  | error he => exact ⟨.error he, hstates⟩

/-- Where equals are found, it is enough to go on alike. -/
theorem Lockstep.bind_eq {x₁ x₂ : Handler α} {g : α → Handler δ} (hx : Lockstep k S Eq x₁ x₂)
    (hf : ∀ a, Lockstep k S R (f a) (g a)) : Lockstep k S R (x₁ >>= f) (x₂ >>= g) :=
  hx.bind fun a _ h => h ▸ hf a

end Rules

/-- The handler leaves every state as it is, and its answer does not depend on it. -/
def Still {α : Type} (x : Handler α) : Prop := ∃ a, ∀ st, x.outcome st = (a, st)

section Still

variable {α β : Type} {x : Handler α} {f : α → Handler β}

theorem still_pure (a : α) : Still (pure a : Handler α) := ⟨.ok a, fun _ => rfl⟩

theorem still_throw (e : Response) : Still (throw e : Handler α) := ⟨.error e, fun _ => rfl⟩

theorem Still.bind (hx : Still x) (hf : ∀ a, Still (f a)) : Still (x >>= f) := by
  obtain ⟨answer, hanswer⟩ := hx
  cases answer with
  | ok a =>
    obtain ⟨answer', hanswer'⟩ := hf a
    exact ⟨answer', fun st => (outcome_bind_ok st (hanswer st) f).trans (hanswer' st)⟩
  | error e => exact ⟨.error e, fun st => by rw [outcome_bind, hanswer]⟩

theorem still_guard {c : Prop} [Decidable c] (e : Response) (hx : Still x) :
    Still (if c then (throw e : Handler PUnit) >>= fun _ => x else x) := by
  split
  · exact (still_throw e).bind fun _ => hx
  · exact hx

/-- What is found without a look at the state is found alike. -/
theorem Still.lockstep {k : Closeness} {S : State → State → Prop} (h : Still x) :
    Lockstep k S Eq x x := by
  obtain ⟨answer, hanswer⟩ := h
  exact lockstep_found hanswer hanswer

end Still

theorem discard_bind {α β : Type} (x : Handler α) (f : PUnit → Handler β) :
    discard x >>= f = x >>= fun _ => f ⟨⟩ := by
  rw [Functor.discard, map_const, Function.comp_apply, map_eq_pure_bind, bind_assoc]
  simp only [pure_bind, Function.const_apply]

end Handler

open Handler

/-! ## States that stay alike -/

/-- Two states that are alike; the memo holds right answers. -/
structure Together (k : Closeness) (st st' : State) : Prop where
  memo : st.memo = st'.memo
  sound : st.memo.Sound
  directory : st.directory.seen k = st'.directory.seen k
  cache : st.cache = st'.cache

namespace Service

section Actions

variable {k : Closeness} {α : Type} {R : α → α → Prop}

/-- Two changes of directories that are alike are refused alike, or answer alike and leave
directories that are alike again. -/
inductive SameChange (k : Closeness) (R : α → α → Prop) :
    Except Error (α × Registry.Directory) → Except Error (α × Registry.Directory) → Prop
  | ok {a b : α} {d d' : Registry.Directory} : R a b → d.seen k = d'.seen k →
      SameChange k R (.ok (a, d)) (.ok (b, d'))
  | error (e : Error) : SameChange k R (.error e) (.error e)

theorem sameChange_of_seenly {x y : Except Error (Registry.Record × Registry.Directory)}
    (h : Registry.Directory.seenly k x = Registry.Directory.seenly k y) :
    SameChange k (fun r r' => r.seen k = r'.seen k) x y := by
  rcases x with e | ⟨r, d⟩ <;> rcases y with e' | ⟨r', d'⟩
  · obtain rfl : e = e' := Except.error.inj h
    exact .error e
  · cases h
  · cases h
  · obtain ⟨hr, hd⟩ := Prod.mk.inj (Except.ok.inj h)
    exact .ok hr hd

/-- What a change of the directory answers, and the state that it leaves. -/
def changed (st : State) (outcome : Except Error (α × Registry.Directory)) :
    Except Error α × State :=
  match outcome with
  | .ok (a, directory) => (.ok a, { st with directory })
  | .error e => (.error e, st)

/-- What a change of the directory comes to. -/
theorem outcome_step (change : Registry.Directory → Except Error (α × Registry.Directory))
    (st : State) :
    Handler.outcome (attempt (onDirectory (Registry.Directory.step change))) st =
      ((changed st (change st.directory)).1.mapError Response.ofError,
        (changed st (change st.directory)).2) := by
  have hrun : Step.outcome (onDirectory (Registry.Directory.step change)).run st =
      changed st (change st.directory) := by
    unfold onDirectory Registry.Directory.step
    dsimp only [Step.outcome, ExceptT.run, StateT.run]
    rcases change st.directory with e | ⟨a, d⟩ <;> rfl
  rw [Handler.outcome_attempt, hrun]

theorem lockstep_step
    {change change' : Registry.Directory → Except Error (α × Registry.Directory)}
    (h : ∀ d d' : Registry.Directory, d.seen k = d'.seen k →
      SameChange k R (change d) (change' d')) :
    Lockstep k (Together k) R (attempt (onDirectory (Registry.Directory.step change)))
      (attempt (onDirectory (Registry.Directory.step change'))) := by
  intro st st' hS
  have hchange := h _ _ hS.directory
  rw [outcome_step, outcome_step]
  generalize change st.directory = out at hchange
  generalize change' st'.directory = out' at hchange
  cases hchange with
  | ok hR hd => exact ⟨.ok hR, hS.memo, hS.sound, hd, hS.cache⟩
  | error e => exact ⟨.error rfl, hS⟩

end Actions

/-! ## The registry -/

section Registry

variable (s : Service) {now now' : Instant}

/-- A change of the directory, if the registry can be reached. -/
def reached {α : Type} (change : Registry.Directory → Except Error (α × Registry.Directory)) :
    Registry.Directory → Except Error (α × Registry.Directory) :=
  match s.registryFault with
  | some reason => fun _ => .error (.internal reason)
  | none => change

theorem sameChange_reached {k : Closeness} {α : Type} {R : α → α → Prop}
    {change change' : Registry.Directory → Except Error (α × Registry.Directory)}
    {d d' : Registry.Directory} (h : SameChange k R (change d) (change' d')) :
    SameChange k R (s.reached change d) (s.reached change' d') := by
  unfold reached
  cases s.registryFault with
  | some reason => exact .error _
  | none => exact h

theorem registry_list (activeOnly : Bool) :
    (s.registry now).list activeOnly =
      Registry.Directory.step (s.reached fun d => .ok (d.list activeOnly, d)) := by
  unfold registry reached
  cases s.registryFault <;> rfl

theorem registry_create (t : Registry.NewTenant) (actor : Option Int) :
    (s.registry now).create t actor =
      Registry.Directory.step (s.reached fun d => d.create t actor now) := by
  unfold registry reached
  cases s.registryFault <;> rfl

theorem registry_get? (id : String) :
    (s.registry now).get? id = Registry.Directory.step (s.reached fun d => .ok (d.get? id, d)) := by
  unfold registry reached
  cases s.registryFault <;> rfl

theorem registry_deactivate (id : String) (actor : Option Int) :
    (s.registry now).deactivate id actor =
      Registry.Directory.step (s.reached fun d => d.deactivate id actor now) := by
  unfold registry reached
  cases s.registryFault <;> rfl

end Registry

/-! ## Who may do what -/

section Checks

variable {k : Closeness} {S : State → State → Prop}

/-- Only an administrator gets past the check, the same in both. -/
theorem lockstep_requireAdmin {scope scope' : Scope} (h : scope.principal = scope'.principal) :
    Lockstep k S (fun p p' => p = p' ∧ scope.isAdmin = true) (requireAdmin scope)
      (requireAdmin scope') := by
  unfold requireAdmin
  rw [← h]
  cases hp : scope.principal with
  | none => exact lockstep_throw _
  | some p =>
    cases hadmin : p.isAdmin with
    | false => simpa [hadmin] using lockstep_throw _
    | true =>
      have hscope : scope.isAdmin = true := by simp [Scope.isAdmin, hp, hadmin]
      simpa [hadmin] using lockstep_pure ⟨rfl, hscope⟩

/-- **Behind the check for an administrator** it is enough to go on alike where states are alike. -/
theorem lockstep_behindCheck {γ δ : Type} {R : γ → δ → Prop} {scope scope' : Scope}
    {f : Principal → Handler γ} {f' : Principal → Handler δ}
    (h : scope.principal = scope'.principal) (hS : scope.isAdmin = true → S = Together k)
    (hf : ∀ p, Lockstep k (Together k) R (f p) (f' p)) :
    Lockstep k S R (requireAdmin scope >>= f) (requireAdmin scope' >>= f') := by
  refine (lockstep_requireAdmin h).bind fun p _ hp => ?_
  obtain ⟨rfl, hadmin⟩ := hp
  obtain rfl := hS hadmin
  exact hf p

theorem outcome_checkedId (id : String) (st : State) :
    Handler.outcome (checkedId id) st =
      (if (st.memo.check id).1 then .ok id
        else .error (.ofError (.badRequest ("invalid tenant id: " ++ id))),
        { st with memo := (st.memo.check id).2 }) := by
  unfold checkedId
  rw [Handler.outcome_bind_ok st (Handler.outcome_lift st _)]
  show Handler.outcome (if (st.memo.check id).1 = true then pure id else throw _) _ = _
  split <;> rfl

/-- An id is checked alike by equal memos, which stay equal. -/
theorem lockstep_checkedId (id : String) :
    Lockstep k (Together k) Eq (checkedId id) (checkedId id) := by
  intro st st' hS
  rw [outcome_checkedId, outcome_checkedId, ← hS.memo]
  refine ⟨?_, rfl, (hS.sound.check id).2, hS.directory, hS.cache⟩
  dsimp only
  split
  · exact .ok rfl
  · exact .error rfl

theorem still_parameter (name : String) (raw : List Char) : Still (parameter name raw) :=
  ⟨_, fun st => outcome_parameter st name raw⟩

theorem still_tableOf (segment : String) : Still (tableOf segment) :=
  ⟨_, fun st => outcome_tableOf st segment⟩

theorem still_activeOnly (r : Request) : Still (activeOnly r) := by
  unfold activeOnly
  dsimp only
  split
  · exact still_pure _
  · exact still_pure _
  · exact still_pure _
  · exact still_throw _

theorem still_newTenant (r : Request) : Still (newTenant r) := by
  unfold newTenant
  dsimp only
  refine still_guard _ (still_guard _ ?_)
  split
  · exact still_throw _
  · exact still_throw _
  · split
    · exact still_pure _
    · exact still_throw _

end Checks

end Service

end Tenancy.Http
