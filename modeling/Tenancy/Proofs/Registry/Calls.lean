import Tenancy.Proofs.Registry.Reachable

/-!
# Calls to a registry, and what they are answered

A call to a registry in memory holds the lock from its first look to its last change. So the calls
of any number of clients come one after the other, in the order in which they got the lock, and a
run is a list of calls; its history is what each of them was answered.

`outcome_serve` enumerates what a single call can come to. Everything that is shown of runs rests on
it, and no operation is unfolded again.
-/

set_option autoImplicit false

namespace Tenancy.Registry

/-! ## Operations with their answers -/

/-- What a registry answers. -/
inductive Answer where
  | found (r : Option Record)
  | listed (rs : List Record)
  | changed (r : Record)
  | flag (active : Bool)
  | done
  deriving Repr

/-- An operation on a registry, with its answer. -/
def Operation.call {m : Type → Type} [Monad m] (registry : Registry m) : Operation → m Answer
  | .get id => .found <$> registry.get? id
  | .list activeOnly => .listed <$> registry.list activeOnly
  | .create t actor => .changed <$> registry.create t actor
  | .deactivate id actor => .changed <$> registry.deactivate id actor
  | .isActive id => .flag <$> registry.isActive id
  | .ping => (fun _ => .done) <$> registry.ping

/-- On whose behalf something is changed. -/
def Operation.actor : Operation → Option Int
  | .create _ actor => actor
  | .deactivate _ actor => actor
  | _ => none

/-- An operation at a moment. -/
structure Call where
  now : Instant
  operation : Operation
  deriving Repr

/-- A call, and what it was answered. -/
structure Entry where
  call : Call
  answer : Except Error Answer
  deriving Repr

namespace Entry

/-- The call has registered a tenant of this id. -/
def registers (id : String) : Entry → Bool
  | ⟨⟨_, .create t _⟩, .ok _⟩ => t.tenantId == id
  | _ => false

/-- The call has deactivated the tenant of this id. -/
def retires (id : String) : Entry → Bool
  | ⟨⟨_, .deactivate id' _⟩, .ok _⟩ => id' == id
  | _ => false

def changes (id : String) (e : Entry) : Bool := e.registers id || e.retires id

theorem not_changes_iff {id : String} {e : Entry} :
    e.changes id = false ↔ e.registers id = false ∧ e.retires id = false := by
  simp [changes]

end Entry

namespace Directory

/-! ## One call -/

section Call

variable {d : Directory} {α β : Type}

/-- What a directory answers to a step, and the directory behind it. -/
def answered (d : Directory) (x : ExceptT Error (StateT Directory Id) α) :
    Except Error α × Directory :=
  (x.run.run d).run

theorem answered_step (change : Directory → Except Error (α × Directory)) :
    d.answered (step change) =
      match change d with
      | .ok (a, d') => (.ok a, d')
      | .error e => (.error e, d) := by
  show (match change d with
    | .ok (a, d') => (pure (.ok a, d') : Id (Except Error α × Directory))
    | .error e => pure (.error e, d)).run = _
  rcases change d with e | ⟨a, d'⟩ <;> rfl

theorem answered_map (f : α → β) (x : ExceptT Error (StateT Directory Id) α) :
    d.answered (f <$> x) = ((d.answered x).1.map f, (d.answered x).2) := by
  unfold answered
  rw [ExceptT.run_map, StateT.run_map]
  rfl

/-- What a directory answers to a call, and the directory behind it. -/
def serve (d : Directory) (c : Call) : Except Error Answer × Directory :=
  d.answered (c.operation.call (inMemory c.now))

/-- The cases of a call: the operation, what it is answered, and the directory behind it. -/
inductive Outcome (d : Directory) : Call → Except Error Answer → Directory → Prop
  | found (now : Instant) (id : String) :
      Outcome d ⟨now, .get id⟩ (.ok (.found (d.get? id))) d
  | listed (now : Instant) (activeOnly : Bool) :
      Outcome d ⟨now, .list activeOnly⟩ (.ok (.listed (d.list activeOnly))) d
  | refused {now : Instant} {t : NewTenant} {actor : Option Int} {e : Error} :
      t.check = .error e → Outcome d ⟨now, .create t actor⟩ (.error e) d
  | taken {now : Instant} {t : NewTenant} {actor : Option Int} :
      t.check = .ok () → (d.get? t.tenantId).isSome = true →
        Outcome d ⟨now, .create t actor⟩ (.error (.tenantExists t.tenantId)) d
  | created {now : Instant} {t : NewTenant} {actor : Option Int} :
      t.check = .ok () → d.get? t.tenantId = none →
        Outcome d ⟨now, .create t actor⟩ (.ok (.changed (t.record actor now)))
          ⟨place (t.record actor now) d.records⟩
  | unknown {now : Instant} {id : String} {actor : Option Int} :
      d.get? id = none → Outcome d ⟨now, .deactivate id actor⟩ (.error (.tenantNotFound id)) d
  | retired {now : Instant} {id : String} {actor : Option Int} {r : Record} :
      d.get? id = some r →
        Outcome d ⟨now, .deactivate id actor⟩ (.ok (.changed (deactivated r actor now)))
          ⟨d.records.map fun s => if s.tenantId.text = id then deactivated s actor now else s⟩
  | flag (now : Instant) (id : String) :
      Outcome d ⟨now, .isActive id⟩ (.ok (.flag (d.isActive id))) d
  | pinged (now : Instant) : Outcome d ⟨now, .ping⟩ (.ok .done) d

/-- **What a call comes to.** -/
theorem outcome_serve (d : Directory) (c : Call) : Outcome d c (d.serve c).1 (d.serve c).2 := by
  obtain ⟨now, op⟩ := c
  cases op with
  | get id => exact .found now id
  | list activeOnly => exact .listed now activeOnly
  | isActive id => exact .flag now id
  | ping => exact .pinged now
  | create t actor =>
    have hserve : d.serve ⟨now, .create t actor⟩ =
        d.answered (.changed <$> step fun d => d.create t actor now) := rfl
    rw [hserve, answered_map, answered_step]
    unfold create
    rcases hcheck : t.check with e | ⟨⟩
    · exact .refused hcheck
    · cases hget : d.get? t.tenantId with
      | none => exact .created hcheck hget
      | some r => exact .taken hcheck (by rw [hget]; rfl)
  | deactivate id actor =>
    have hserve : d.serve ⟨now, .deactivate id actor⟩ =
        d.answered (.changed <$> step fun d => d.deactivate id actor now) := rfl
    rw [hserve, answered_map, answered_step]
    unfold deactivate
    cases hget : d.get? id with
    | none => exact .unknown hget
    | some r => exact .retired hget

/-- What is behind a call does not depend on whether its answer is looked at. -/
theorem snd_serve (d : Directory) (now : Instant) (op : Operation) :
    (d.serve ⟨now, op⟩).2 = d.after now op := by
  have hperform : op.perform (inMemory now : Registry (ExceptT Error (StateT Directory Id))) =
      (fun _ => ()) <$> op.call (inMemory now) := by
    cases op <;> simp [Operation.perform, Operation.call]
  show _ = (d.answered (op.perform (inMemory now))).2
  rw [hperform, answered_map]
  rfl

end Call

/-! ## Runs -/

/-- The directory behind some calls. -/
def reached (d : Directory) : List Call → Directory
  | [] => d
  | c :: rest => reached (d.serve c).2 rest

/-- Some calls, each with what it was answered. -/
def history (d : Directory) : List Call → List Entry
  | [] => []
  | c :: rest => ⟨c, (d.serve c).1⟩ :: history (d.serve c).2 rest

theorem reached_append (d : Directory) (cs cs' : List Call) :
    d.reached (cs ++ cs') = (d.reached cs).reached cs' := by
  induction cs generalizing d with
  | nil => rfl
  | cons c cs ih => exact ih (d.serve c).2

/-- Whatever some calls have led to can be reached. -/
theorem reachable_reached {d : Directory} (h : d.Reachable) (cs : List Call) :
    (d.reached cs).Reachable := by
  induction cs generalizing d with
  | nil => exact h
  | cons c cs ih =>
    refine ih ?_
    rw [snd_serve]
    exact h.after c.now c.operation

end Directory

end Tenancy.Registry
