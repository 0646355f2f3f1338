import Tenancy.Database.Registry
import Tenancy.Http.Endpoints
import Tenancy.Proofs.Registry.Reachable
import Tenancy.Proofs.Resolution.Inquiry

/-!
# One memo for all requests

Requests check ids through one memo, and they do not wait for each other. Looking for an id, asking
the rule and putting the answer into the memo are three steps, and between any two of them others
take theirs, about the same id or another one, and the memo forgets what it likes. `SharedMemo` is a
memo with the clients that use it, and a `Move` is one step of anyone. Any list of moves is a run, so
what is said of runs is said of all interleavings. The memo makes room when an answer is put there; one
that does so later is a memo with more room that evicts by moves, and all capacities are admitted.

Two things are true in every run: each answer in the memo is the rule's, and so is each answer that a
client has computed and not put there yet. So a client is always on its way to what the rule alone
leads to, whatever happens between its steps (`Client.Right`).
-/

set_option autoImplicit false

namespace Tenancy

open TenantId

namespace SharedMemo

variable {m : Type → Type}

/-! ## What the memo is used for -/

/-- A use of the memo. -/
inductive Use (m : Type → Type) where
  | isValid (candidate : String)
  | resolve (settings : Settings) (now : Instant) (signals : Signals)
      (principal : Option Principal)
  /-- The id in a request that is about a registered tenant. -/
  | checkedId (id : String)
  | isServed (registry : Registry m) (id : String)

/-- What comes of a use. What a registry still has to be asked is an action. -/
inductive Result (m : Type → Type) where
  | valid (answer : Bool)
  | resolved (context : Context)
  | checked (id : Except Http.Response String)
  | served (answer : m Bool)

namespace Use

/-- What comes of a use when nobody else is there, and what is logged. -/
def alone [Monad m] (st : Http.State) : Use m → Logged (Result m)
  | isValid candidate => (fun x => .valid x.1) <$> (Resolution.isValid candidate).run st.memo
  | resolve settings now signals principal =>
    (fun x => .resolved x.1) <$> (Resolution.resolve settings now signals principal).run st.memo
  | checkedId id => (fun x => .checked x.1) <$> (Http.Service.checkedId id).run.run st
  | isServed registry id =>
    pure (.served (Prod.fst <$> Registry.isServed registry st.memo id))

def inquiry [Monad m] : Use m → Inquiry (Result m)
  | isValid candidate => .valid <$> Inquiry.isValid candidate
  | resolve settings now signals principal =>
    .resolved <$> Inquiry.resolve settings now signals principal
  | checkedId id => do
    let valid ← Inquiry.isValid id
    return .checked (if valid then .ok id
      else .error (.ofError (.badRequest ("invalid tenant id: " ++ id))))
  | isServed registry id => do
    let valid ← Inquiry.isValid id
    return .served (if valid then registry.isActive id else pure false)

section Alone

variable {α β : Type}

theorem map_eq (f : α → β) (x : Logged α) : f <$> x = ⟨f x.value, x.events⟩ := by
  show Logged.mk (f x.value) (x.events ++ []) = _
  rw [List.append_nil]

theorem run_map (q : Inquiry α) (f : α → β) (memo : Memo) :
    Prod.fst <$> (f <$> q).run.run memo = (fun x => f x.1) <$> q.run.run memo := by
  have hmap : f <$> q = q >>= fun a => pure (f a) := rfl
  rw [hmap, Inquiry.run_bind, map_eq, map_eq]
  show Logged.mk _ ((q.run.run memo).events ++ []) = _
  rw [List.append_nil]
  rfl

theorem run_checkedId (id : String) (st : Http.State) :
    (Http.Service.checkedId id).run.run st =
      ⟨(if (st.memo.check id).1 then .ok id
          else .error (.ofError (.badRequest ("invalid tenant id: " ++ id))),
        { st with memo := (st.memo.check id).2 }), []⟩ := by
  unfold Http.Service.checkedId
  show (if (st.memo.check id).1 = true then pure id else throw _ : Http.Handler String).run.run
    { st with memo := (st.memo.check id).2 } = _
  split <;> rfl

/-- **Alone, a use is its inquiry that is run.** -/
theorem alone_eq [Monad m] [LawfulMonad m] (u : Use m) (st : Http.State) :
    u.alone st = Prod.fst <$> u.inquiry.run.run st.memo := by
  cases u with
  | isValid candidate =>
    refine Eq.trans ?_ (run_map (Inquiry.isValid candidate) Result.valid st.memo).symm
    rw [Inquiry.run_isValid]
    rfl
  | resolve settings now signals principal =>
    refine Eq.trans ?_
      (run_map (Inquiry.resolve settings now signals principal) Result.resolved st.memo).symm
    rw [Inquiry.run_resolve]
    rfl
  | checkedId id =>
    show (fun x => Result.checked x.1) <$> (Http.Service.checkedId id).run.run st = _
    rw [run_checkedId]
    rfl
  | isServed registry id =>
    show (⟨.served _, []⟩ : Logged (Result m)) = ⟨.served (if (st.memo.check id).1 then _ else _), []⟩
    have hserved : Prod.fst <$> Registry.isServed registry st.memo id =
        if (st.memo.check id).1 then registry.isActive id else pure false := by
      unfold Registry.isServed
      rcases st.memo.check id with ⟨valid, memo⟩
      cases valid <;> simp
    rw [hserved]

end Alone

end Use

/-! ## Clients -/

inductive Progress (α : Type) where
  | before (rest : Inquiry α)
  /-- The id was not found in the memo. -/
  | missed (id : String) (next : Bool → Inquiry α)
  /-- The rule was asked, and the answer is not in the memo yet. -/
  | computed (id : String) (answer : Bool) (next : Bool → Inquiry α)

/-- How many steps are left at most. -/
def Progress.left {α : Type} : Progress α → Nat
  | before rest => rest.weight
  | missed _ next => max (next true).weight (next false).weight + 2
  | computed _ _ next => max (next true).weight (next false).weight + 1

/-- A client: what it uses the memo for, what it has logged, and how far it has got. -/
structure Client (m : Type → Type) where
  use : Use m
  events : List Event
  progress : Progress (Result m)

namespace Client

def start [Monad m] (u : Use m) : Client m := ⟨u, [], .before u.inquiry⟩

def step (c : Client m) (memo : Memo) : Client m × Memo :=
  match c.progress with
  | .before (.done _) => (c, memo)
  | .before (.log e rest) => ({ c with events := c.events ++ [e], progress := .before rest }, memo)
  | .before (.ask id next) =>
    match memo.find? id with
    | some answer => ({ c with progress := .before (next answer) }, memo.remember id answer)
    | none => ({ c with progress := .missed id next }, memo)
  | .missed id next => ({ c with progress := .computed id (isValidText id) next }, memo)
  | .computed id answer next =>
    ({ c with progress := .before (next answer) }, memo.remember id answer)

def result? (c : Client m) : Option (Result m) :=
  match c.progress with
  | .before (.done r) => some r
  | _ => none

theorem progress_eq {c : Client m} {r : Result m} (h : c.result? = some r) :
    c.progress = .before (.done r) := by
  unfold result? at h
  split at h
  · next hprogress => rw [hprogress, Option.some.inj h]
  · exact nomatch h

@[simp]
theorem use_step (c : Client m) (memo : Memo) : (c.step memo).1.use = c.use := by
  obtain ⟨use, events, progress⟩ := c
  unfold step
  cases progress with
  | before rest =>
    cases rest with
    | done r => rfl
    | log e rest => rfl
    | ask id next =>
      dsimp only
      cases memo.find? id <;> rfl
  | missed id next => rfl
  | computed id answer next => rfl

/-- **Each step brings a client closer to its end**, whatever is in the memo. -/
theorem left_step (c : Client m) (memo : Memo) :
    (c.step memo).1.progress.left ≤ c.progress.left - 1 := by
  obtain ⟨use, events, progress⟩ := c
  unfold step
  cases progress with
  | before rest =>
    cases rest with
    | done r => exact Nat.le_refl _
    | log e rest => exact Nat.le_refl _
    | ask id next =>
      dsimp only
      cases memo.find? id with
      | some answer =>
        have hle := Inquiry.weight_le next answer
        show (next answer).weight ≤ max (next true).weight (next false).weight + 3 - 1
        omega
      | none => exact Nat.le_refl _
  | missed id next => exact Nat.le_refl _
  | computed id answer next => exact Inquiry.weight_le next answer

theorem isSome_result? {c : Client m} (h : c.progress.left = 0) : c.result?.isSome = true := by
  obtain ⟨use, events, progress⟩ := c
  cases progress with
  | before rest =>
    cases rest with
    | done r => rfl
    | log e rest => exact absurd h (Nat.succ_ne_zero _)
    | ask id next => exact absurd h (Nat.succ_ne_zero _)
  | missed id next => exact absurd h (Nat.succ_ne_zero _)
  | computed id answer next => exact absurd h (Nat.succ_ne_zero _)

end Client

end SharedMemo

/-- A memo, and the clients that use it, in the order in which they came. -/
structure SharedMemo (m : Type → Type) where
  memo : Memo
  clients : List (SharedMemo.Client m)

namespace SharedMemo

variable {m : Type → Type} [Monad m]

/-- One step of someone who uses the memo, or of the memo itself. -/
inductive Move (m : Type → Type) where
  | begin (u : Use m)
  /-- The client that came in this place takes its next step. -/
  | step (place : Nat)
  /-- The memo forgets what it knows about an id. -/
  | evict (id : String)

def Move.isStepOf (place : Nat) : Move m → Bool
  | .step i => i == place
  | _ => false

def new (capacity : Nat) : SharedMemo m := ⟨.empty capacity, []⟩

def after (s : SharedMemo m) : Move m → SharedMemo m
  | .begin u => { s with clients := s.clients ++ [.start u] }
  | .step place =>
    match s.clients[place]? with
    | some c => ⟨(c.step s.memo).2, s.clients.set place (c.step s.memo).1⟩
    | none => s
  | .evict id => { s with memo := s.memo.forget id }

def afterAll (s : SharedMemo m) (moves : List (Move m)) : SharedMemo m := moves.foldl after s

section After

variable {s : SharedMemo m} {place : Nat}

theorem after_step {c : Client m} (h : s.clients[place]? = some c) :
    s.after (.step place) = ⟨(c.step s.memo).2, s.clients.set place (c.step s.memo).1⟩ := by
  unfold after
  simp only [h]

theorem after_step_none (h : s.clients[place]? = none) : s.after (.step place) = s := by
  unfold after
  simp only [h]

theorem afterAll_append (moves moves' : List (Move m)) :
    s.afterAll (moves ++ moves') = (s.afterAll moves).afterAll moves' :=
  List.foldl_append

end After

/-! ## Right answers -/

namespace Progress

variable {α : Type}

/-- What is left of an inquiry if the rule is asked from here on. -/
def byRule : Progress α → Logged α
  | before rest => rest.byRule
  | missed id next => (next (isValidText id)).byRule
  | computed _ answer next => (next answer).byRule

def Right : Progress α → Prop
  | computed id answer _ => answer = isValidText id
  | _ => True

end Progress

/-- What a client has logged, and what the rule leads it to from here on, is what the rule would have
led it to from the start. -/
structure Client.Right (c : Client m) : Prop where
  computed : c.progress.Right
  outcome : (⟨c.progress.byRule.value, c.events ++ c.progress.byRule.events⟩ : Logged (Result m)) =
    c.use.inquiry.byRule

theorem Client.Right.start (u : Use m) : (Client.start u).Right := ⟨trivial, rfl⟩

/-- **One step of a client** keeps the memo's answers right, and the client on its way. -/
theorem Client.Right.step {c : Client m} (hc : c.Right) {memo : Memo} (hmemo : memo.Sound) :
    (c.step memo).1.Right ∧ (c.step memo).2.Sound := by
  obtain ⟨use, events, progress⟩ := c
  obtain ⟨hcomputed, houtcome⟩ := hc
  unfold Client.step
  cases progress with
  | before rest =>
    cases rest with
    | done r => exact ⟨⟨hcomputed, houtcome⟩, hmemo⟩
    | log e rest =>
      refine ⟨⟨trivial, ?_⟩, hmemo⟩
      rw [← houtcome]
      show Logged.mk _ ((events ++ [e]) ++ rest.byRule.events) = _
      rw [List.append_assoc]
      rfl
    | ask id next =>
      dsimp only
      cases hfind : memo.find? id with
      | some answer =>
        -- the only place where an answer of somebody else is used
        obtain rfl := hmemo.find?_eq hfind
        exact ⟨⟨trivial, houtcome⟩, hmemo.remember id⟩
      | none => exact ⟨⟨trivial, houtcome⟩, hmemo⟩
  | missed id next => exact ⟨⟨rfl, houtcome⟩, hmemo⟩
  | computed id answer next =>
    -- what others put into the memo since the rule was asked does not make the answer wrong
    obtain rfl : answer = isValidText id := hcomputed
    exact ⟨⟨trivial, houtcome⟩, hmemo.remember id⟩

structure Right (s : SharedMemo m) : Prop where
  sound : s.memo.Sound
  clients : ∀ c ∈ s.clients, c.Right

theorem right_new (capacity : Nat) : (new capacity : SharedMemo m).Right :=
  ⟨Memo.sound_empty capacity, fun _ hc => absurd hc List.not_mem_nil⟩

/-- **One move** of anyone keeps everything right. -/
theorem Right.after {s : SharedMemo m} (h : s.Right) (move : Move m) : (s.after move).Right := by
  cases move with
  | begin u =>
    refine ⟨h.sound, ?_⟩
    intro c hc
    rcases List.mem_append.mp hc with hc | hc
    · exact h.clients c hc
    · rw [List.mem_singleton.mp hc]
      exact .start u
  | step place =>
    cases hplace : s.clients[place]? with
    | none =>
      rw [after_step_none hplace]
      exact h
    | some c =>
      obtain ⟨hclient, hsound⟩ := (h.clients c (List.mem_of_getElem? hplace)).step h.sound
      rw [after_step hplace]
      refine ⟨hsound, ?_⟩
      intro c' hc'
      rcases List.mem_or_eq_of_mem_set hc' with hc' | rfl
      · exact h.clients c' hc'
      · exact hclient
  | evict id => exact ⟨h.sound.forget id, h.clients⟩

theorem Right.afterAll {s : SharedMemo m} (h : s.Right) (moves : List (Move m)) :
    (s.afterAll moves).Right := by
  induction moves generalizing s with
  | nil => exact h
  | cons move moves ih => exact ih (h.after move)

/-! ## Getting to the end -/

/-- A client keeps its place, and what it is there for, and comes closer to its end with each of its
steps. -/
theorem exists_client_after {s : SharedMemo m} {place : Nat} {c : Client m}
    (h : s.clients[place]? = some c) (move : Move m) :
    ∃ c', (s.after move).clients[place]? = some c' ∧ c'.use = c.use ∧
      c'.progress.left ≤ c.progress.left - if move.isStepOf place then 1 else 0 := by
  obtain ⟨hplace, -⟩ := List.getElem?_eq_some_iff.mp h
  cases move with
  | begin u =>
    refine ⟨c, ?_, rfl, Nat.le_refl _⟩
    show (s.clients ++ [.start u])[place]? = _
    rw [List.getElem?_append_left hplace]
    exact h
  | step i =>
    by_cases hi : i = place
    · subst hi
      refine ⟨(c.step s.memo).1, ?_, c.use_step s.memo, ?_⟩
      · rw [after_step h]
        exact List.getElem?_set_self hplace
      · rw [show (Move.step i : Move m).isStepOf i = true from beq_self_eq_true i, if_pos rfl]
        exact c.left_step s.memo
    · have hnot : (Move.step i : Move m).isStepOf place = false := beq_eq_false_iff_ne.mpr hi
      rw [hnot]
      refine ⟨c, ?_, rfl, Nat.le_refl _⟩
      cases hother : s.clients[i]? with
      | none =>
        rw [after_step_none hother]
        exact h
      | some c' =>
        rw [after_step hother]
        exact (List.getElem?_set_ne hi).trans h
  | evict id => exact ⟨c, h, rfl, Nat.le_refl _⟩

theorem exists_client_afterAll {s : SharedMemo m} {place : Nat} {c : Client m}
    (h : s.clients[place]? = some c) (moves : List (Move m)) :
    ∃ c', (s.afterAll moves).clients[place]? = some c' ∧ c'.use = c.use ∧
      c'.progress.left ≤ c.progress.left - (moves.countP (Move.isStepOf place)) := by
  induction moves generalizing s c with
  | nil => exact ⟨c, h, rfl, Nat.le_refl _⟩
  | cons move moves ih =>
    obtain ⟨c₁, h₁, huse₁, hleft₁⟩ := exists_client_after h move
    obtain ⟨c', h', huse', hleft'⟩ := ih h₁
    refine ⟨c', h', huse'.trans huse₁, ?_⟩
    rw [List.countP_cons]
    omega

/-! ## Registered ids -/

inductive WasCreated (t : Registry.NewTenant) : Prop where
  | inMemory {d d' : Registry.Directory} {actor : Option Int} {now : Instant}
      {record : Registry.Record} (created : d.create t actor now = .ok (record, d'))
  | inDatabase {σ : Type} {database : σ → Database.Statement → Database.Reply × σ} {state : σ}
      {actor : Option Int} {record : Registry.Record}
      (created : (Database.Program.run database state (Database.createRecord t actor)).answer =
        .ok record)

theorem WasCreated.isValidText {t : Registry.NewTenant} (h : WasCreated t) :
    TenantId.isValidText t.tenantId = true := by
  have hcheck : t.check = .ok () := by
    cases h with
    | inMemory created => exact (Registry.Directory.create_eq_ok created).1
    | inDatabase created =>
      cases hcheck : t.check with
      | ok => rfl
      | error e =>
        unfold Database.createRecord at created
        rw [hcheck] at created
        exact nomatch created
  exact (Registry.NewTenant.check_eq_ok_iff.mp hcheck).1

/-! ## The shared memo makes no difference -/

theorem Use.alone_empty [LawfulMonad m] (u : Use m) (st : Http.State) (capacity : Nat) :
    u.alone { st with memo := .empty capacity } = u.inquiry.byRule := by
  obtain ⟨memo', -, hrun⟩ := u.inquiry.run_eq_byRule (Memo.sound_empty capacity)
  rw [Use.alone_eq, Use.map_eq, hrun]

theorem Client.Right.byRule_eq {c : Client m} (hc : c.Right) {r : Result m}
    (h : c.result? = some r) : c.use.inquiry.byRule = ⟨r, c.events⟩ := by
  rw [← hc.outcome, c.progress_eq h]
  show Logged.mk r (c.events ++ []) = _
  rw [List.append_nil]

/-- **The shared memo makes no difference.** Whatever happened before a client comes and whatever
happens from then on, in whatever order, the client has its result when it has taken enough steps.
The result and what it logged are those of the use alone with a memo that nobody has used: whether a
text is a valid id is what the rule says, and the id of a tenant that was ever registered is never
refused. -/
theorem use_unaffected [LawfulMonad m] (capacity : Nat) (front back : List (Move m)) (u : Use m) :
    ∃ c, (afterAll (new capacity) (front ++ .begin u :: back)).clients[
        (afterAll (new capacity) front).clients.length]? = some c ∧
      (u.inquiry.weight ≤
          back.countP (Move.isStepOf (afterAll (new capacity) front).clients.length) →
        c.result?.isSome = true) ∧
      ∀ r, c.result? = some r →
        (∀ (st : Http.State) (capacity' : Nat),
          u.alone { st with memo := .empty capacity' } = ⟨r, c.events⟩) ∧
        (∀ candidate, u = .isValid candidate → r = .valid (isValidText candidate)) ∧
        ∀ t, WasCreated t → u = .checkedId t.tenantId → r = .checked (.ok t.tenantId) := by
  generalize hs : afterAll (new capacity) front = s
  have hright : (afterAll (new capacity) (front ++ .begin u :: back)).Right :=
    (right_new capacity).afterAll _
  have hstart : (s.after (.begin u)).clients[s.clients.length]? = some (.start u) :=
    List.getElem?_concat_length
  obtain ⟨c, hplace, huse, hleft⟩ := exists_client_afterAll hstart back
  have hafter : afterAll (new capacity) (front ++ .begin u :: back) =
      (s.after (.begin u)).afterAll back := by
    rw [afterAll_append, hs]
    rfl
  rw [← hafter] at hplace
  refine ⟨c, hplace, ?_, ?_⟩
  · -- each of the client's own steps counts, and nobody else's sets it back
    intro henough
    have hleft' : c.progress.left ≤ u.inquiry.weight - _ := hleft
    exact c.isSome_result? (by omega)
  intro r hr
  have huse' : c.use = u := huse
  have hresult : u.inquiry.byRule = ⟨r, c.events⟩ := by
    rw [← huse']
    exact (hright.clients c (List.mem_of_getElem? hplace)).byRule_eq hr
  refine ⟨?_, ?_, ?_⟩
  · intro st capacity'
    rw [← hresult]
    exact u.alone_empty st capacity'
  · rintro candidate rfl
    exact (congrArg Logged.value hresult).symm
  · rintro t ht rfl
    have hvalid : (Use.checkedId t.tenantId : Use m).inquiry.byRule.value =
        .checked (if isValidText t.tenantId then .ok t.tenantId
          else .error (.ofError (.badRequest ("invalid tenant id: " ++ t.tenantId)))) := rfl
    rw [ht.isValidText, if_pos rfl] at hvalid
    exact (congrArg Logged.value hresult).symm.trans hvalid

/-- Two clients look for one id before either of them has put the answer into the memo, which has room
for one. The third one comes when both have missed it, and the memo forgets the id under its hands. -/
theorem use_unaffected_race :
    ∃ c, (afterAll (new 1 : SharedMemo Id)
        ([.begin (.isValid "acme"), .begin (.isValid "acme"), .step 0, .step 1] ++
          .begin (.checkedId "acme") ::
            [.step 0, .step 2, .step 0, .evict "acme", .step 2, .step 1, .step 1, .step 2])
        ).clients[2]? = some c ∧
      c.result? = some (.checked (.ok "acme")) := by
  obtain ⟨c, hplace, hdone, hresult⟩ := use_unaffected (m := Id) 1
    [.begin (.isValid "acme"), .begin (.isValid "acme"), .step 0, .step 1]
    [.step 0, .step 2, .step 0, .evict "acme", .step 2, .step 1, .step 1, .step 2]
    (.checkedId "acme")
  have hcreated : Registry.Directory.empty.create (.named "acme" "Acme") none default =
      .ok (_, _) := rfl
  obtain ⟨r, hr⟩ := Option.isSome_iff_exists.mp (hdone (by decide))
  refine ⟨c, hplace, hr.trans ?_⟩
  rw [(hresult r hr).2.2 _ (.inMemory hcreated) rfl]
  rfl

end SharedMemo

end Tenancy
