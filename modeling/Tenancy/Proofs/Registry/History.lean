import Mathlib.Data.String.Basic
import Tenancy.Proofs.Keyed
import Tenancy.Proofs.Registry.Calls
import Tenancy.Proofs.Resolution.Steps

/-!
# A registry is what its history says

What a directory holds after a run can be told from the run's history alone: `Follows` says how. The
step lemma goes through the cases of one call. A call that changes nothing adds an entry that nobody
counts; a registration starts a record; a deactivation marks one, and its origin stays. The run lemma
is induction on the calls, the last one taken off.

History only ever grows, so what it says of the past stays true: a record keeps its origin for good,
and a tenant that was deactivated is not active again.
-/

set_option autoImplicit false

namespace Tenancy.Registry

/-- What is settled when a tenant is registered: what was supplied, when, and by whom. -/
def Record.origin (r : Record) : NewTenant × Instant × Option Int :=
  (⟨r.tenantId.text, r.name, r.description, r.databaseSchema, r.configuration⟩, r.createdOn,
    r.createdBy)

namespace Directory

variable {d : Directory}

/-! ## Records in order -/

/-- The records are in the order of their ids, no two of which are the same. -/
def Ordered (rs : List Record) : Prop := rs.Pairwise fun r s => r.tenantId.text < s.tenantId.text

theorem nodup_of_ordered {rs : List Record} (h : Ordered rs) :
    (rs.map fun r => r.tenantId.text).Nodup :=
  List.pairwise_map.mpr (h.imp fun hlt => ne_of_lt hlt)

theorem isSome_get?_iff {id : String} :
    (d.get? id).isSome = true ↔ ∃ r ∈ d.records, r.tenantId.text = id := by
  simp [get?]

theorem get?_eq_none_iff {id : String} :
    d.get? id = none ↔ ∀ r ∈ d.records, r.tenantId.text ≠ id := by
  simp [get?]

theorem get?_eq_some_iff (h : Ordered d.records) {id : String} {r : Record} :
    d.get? id = some r ↔ r ∈ d.records ∧ r.tenantId.text = id := by
  constructor
  · intro hget
    exact ⟨List.mem_of_find?_eq_some hget, by simpa using List.find?_some hget⟩
  · rintro ⟨hr, rfl⟩
    exact find?_eq_some_of_nodup (nodup_of_ordered h) hr

theorem ordered_place {r : Record} {rs : List Record} (h : Ordered rs)
    (hfree : ∀ s ∈ rs, s.tenantId.text ≠ r.tenantId.text) : Ordered (place r rs) := by
  induction rs with
  | nil => exact List.pairwise_singleton _ _
  | cons s rs ih =>
    obtain ⟨hs, hrs⟩ := List.pairwise_cons.mp h
    unfold place
    split
    · next hlt =>
      refine List.pairwise_cons.mpr ⟨?_, h⟩
      intro a ha
      rcases List.mem_cons.mp ha with rfl | ha
      · exact hlt
      · exact lt_trans hlt (hs a ha)
    · next hnot =>
      refine List.pairwise_cons.mpr ⟨?_, ih hrs fun a ha => hfree a (List.mem_cons_of_mem _ ha)⟩
      intro a ha
      rcases mem_place.mp ha with rfl | ha
      · exact lt_of_le_of_ne (not_lt.mp hnot) (hfree s List.mem_cons_self)
      · exact hs a ha

theorem ordered_map {f : Record → Record} {rs : List Record} (h : Ordered rs)
    (hf : ∀ r, (f r).tenantId = r.tenantId) : Ordered (rs.map f) := by
  refine List.pairwise_map.mpr (h.imp ?_)
  intro a b hab
  rw [hf, hf]
  exact hab

theorem isSome_get?_map {f : Record → Record} (hf : ∀ r, (f r).tenantId = r.tenantId)
    {id : String} : (get? ⟨d.records.map f⟩ id).isSome = true ↔ (d.get? id).isSome = true := by
  rw [isSome_get?_iff, isSome_get?_iff]
  simp only [List.mem_map, exists_exists_and_eq_and, hf]

/-! ## What a history tells -/

/-- How a record has come about: it was registered once, by a call with `front` before it and `back`
after it, and it is active unless it was deactivated since. -/
structure Told (front : List Entry) (t : NewTenant) (actor : Option Int) (now : Instant)
    (back : List Entry) (r : Record) : Prop where
  origin : r.origin = (t, now, actor)
  once : ∀ e ∈ front ++ back, e.registers r.tenantId.text = false
  active : r.isActive = true ↔ ∀ e ∈ back, e.retires r.tenantId.text = false

/-- The call by which a tenant was registered. -/
def registration (t : NewTenant) (actor : Option Int) (now : Instant) : Entry :=
  ⟨⟨now, .create t actor⟩, .ok (.changed (t.record actor now))⟩

/-- The last call that has registered or deactivated a tenant of this id. -/
def lastChange? (id : String) (h : List Entry) : Option Entry :=
  (h.filter (Entry.changes id)).getLast?

/-- A directory holds what a history tells, and nothing else. -/
structure Follows (d : Directory) (h : List Entry) : Prop where
  ordered : Ordered d.records
  registered : ∀ id, (d.get? id).isSome = true ↔ ∃ e ∈ h, e.registers id = true
  told : ∀ r ∈ d.records, ∃ front t actor now back,
    h = front ++ registration t actor now :: back ∧ Told front t actor now back r
  changed : ∀ r ∈ d.records, ∃ e, lastChange? r.tenantId.text h = some e ∧
    r.changedBy = e.call.operation.actor ∧ r.changedOn = e.call.now

theorem follows_empty : Follows .empty [] where
  ordered := List.Pairwise.nil
  registered id := by simp [empty, get?]
  told r hr := absurd hr List.not_mem_nil
  changed r hr := absurd hr List.not_mem_nil

section Step

variable {h : List Entry} {e : Entry} {r : Record}

theorem lastChange?_append_of_not {id : String} (he : e.changes id = false) :
    lastChange? id (h ++ [e]) = lastChange? id h := by
  simp [lastChange?, he]

theorem lastChange?_append_self {id : String} (he : e.changes id = true) :
    lastChange? id (h ++ [e]) = some e := by
  simp [lastChange?, he]

/-- A call that has nothing to do with a record's tenant leaves what is told of it as it was. -/
theorem Told.append_of_not {front back : List Entry} {t : NewTenant} {actor : Option Int}
    {now : Instant} (hr : Told front t actor now back r) (he : e.changes r.tenantId.text = false) :
    Told front t actor now (back ++ [e]) r := by
  obtain ⟨hregisters, hretires⟩ := Entry.not_changes_iff.mp he
  refine ⟨hr.origin, ?_, ?_⟩
  · rw [← List.append_assoc, List.forall_mem_append, List.forall_mem_singleton]
    exact ⟨hr.once, hregisters⟩
  · rw [hr.active, List.forall_mem_append, List.forall_mem_singleton]
    exact (and_iff_left hretires).symm

theorem Told.append_retired {front back : List Entry} {t : NewTenant} {actor : Option Int}
    {now : Instant} (hr : Told front t actor now back r)
    (hregisters : e.registers r.tenantId.text = false)
    (hretires : e.retires r.tenantId.text = true) (actor' : Option Int) (now' : Instant) :
    Told front t actor now (back ++ [e]) (deactivated r actor' now') := by
  refine ⟨hr.origin, ?_, ?_⟩
  · rw [← List.append_assoc, List.forall_mem_append, List.forall_mem_singleton]
    exact ⟨hr.once, hregisters⟩
  · rw [List.forall_mem_append, List.forall_mem_singleton]
    constructor
    · intro hactive
      exact absurd hactive Bool.false_ne_true
    · rintro ⟨-, hnot⟩
      exact absurd (hnot.symm.trans hretires) Bool.false_ne_true

/-- A record whose tenant a call has nothing to do with follows the history with that call, too. -/
theorem Follows.told_append (hd : d.Follows h) (hr : r ∈ d.records)
    (he : e.changes r.tenantId.text = false) :
    ∃ front t actor now back,
      h ++ [e] = front ++ registration t actor now :: back ∧ Told front t actor now back r := by
  obtain ⟨front, t, actor, now, back, rfl, htold⟩ := hd.told r hr
  exact ⟨front, t, actor, now, back ++ [e], by simp, htold.append_of_not he⟩

theorem Follows.idle (hd : d.Follows h) (he : ∀ id, e.changes id = false) :
    d.Follows (h ++ [e]) where
  ordered := hd.ordered
  registered id := by
    rw [hd.registered id]
    have hnot := (Entry.not_changes_iff.mp (he id)).1
    simp [or_and_right, exists_or, hnot]
  told r hr := hd.told_append hr (he _)
  changed r hr := by
    rw [lastChange?_append_of_not (he _)]
    exact hd.changed r hr

theorem Follows.created (hd : d.Follows h) {now : Instant} {t : NewTenant} {actor : Option Int}
    (hfree : d.get? t.tenantId = none) :
    Follows ⟨place (t.record actor now) d.records⟩ (h ++ [registration t actor now]) := by
  have hne : ∀ r ∈ d.records, r.tenantId.text ≠ t.tenantId := get?_eq_none_iff.mp hfree
  have hother : ∀ r ∈ d.records, (registration t actor now).changes r.tenantId.text = false := by
    intro r hr
    simp [Entry.changes, Entry.registers, Entry.retires, registration, (hne r hr).symm]
  have hself : (registration t actor now).changes t.tenantId = true := by
    simp [Entry.changes, Entry.registers, registration]
  refine ⟨ordered_place hd.ordered hne, ?_, ?_, ?_⟩
  · intro id
    have hplaced : (get? ⟨place (t.record actor now) d.records⟩ id).isSome = true ↔
        t.tenantId = id ∨ (d.get? id).isSome = true := by
      simp only [isSome_get?_iff, mem_place, or_and_right, exists_or, exists_eq_left]
      rfl
    rw [hplaced, hd.registered id]
    simp [registration, Entry.registers, or_and_right, exists_or, or_comm]
  · intro r hr
    rcases mem_place.mp hr with rfl | hr
    · -- nobody has registered the tenant before, or its id would be taken
      refine ⟨h, t, actor, now, [], rfl, rfl, ?_, by simp [NewTenant.record]⟩
      intro e he
      rw [List.append_nil] at he
      by_contra hregisters
      have htaken : (d.get? t.tenantId).isSome = true :=
        (hd.registered t.tenantId).mpr ⟨e, he, Bool.eq_true_of_not_eq_false hregisters⟩
      rw [hfree] at htaken
      exact absurd htaken Bool.false_ne_true
    · exact hd.told_append hr (hother r hr)
  · intro r hr
    rcases mem_place.mp hr with rfl | hr
    · exact ⟨_, lastChange?_append_self hself, rfl, rfl⟩
    · rw [lastChange?_append_of_not (hother r hr)]
      exact hd.changed r hr

theorem Follows.retired (hd : d.Follows h) {now : Instant} {id : String} {actor : Option Int}
    {a : Answer} :
    Follows ⟨d.records.map fun s => if s.tenantId.text = id then deactivated s actor now else s⟩
      (h ++ [⟨⟨now, .deactivate id actor⟩, .ok a⟩]) := by
  generalize he : (⟨⟨now, .deactivate id actor⟩, .ok a⟩ : Entry) = e
  have hregisters : ∀ id', e.registers id' = false := by
    intro id'
    rw [← he]
    rfl
  have hother : ∀ id', id' ≠ id → e.changes id' = false := by
    intro id' hne
    rw [← he]
    simp [Entry.changes, Entry.registers, Entry.retires, hne.symm]
  have hretires : e.retires id = true := by
    rw [← he]
    simp [Entry.retires]
  refine ⟨ordered_map hd.ordered ?_, ?_, ?_, ?_⟩
  · intro r
    split <;> rfl
  · intro id'
    rw [isSome_get?_map (fun r => by split <;> rfl), hd.registered id']
    simp [or_and_right, exists_or, hregisters]
  · intro r hr
    obtain ⟨s, hs, rfl⟩ := List.mem_map.mp hr
    split
    · next hsid =>
      obtain ⟨front, t, actor', now', back, rfl, htold⟩ := hd.told s hs
      refine ⟨front, t, actor', now', back ++ [e], by simp, ?_⟩
      exact htold.append_retired (hregisters _) (hsid ▸ hretires) actor now
    · next hsid => exact hd.told_append hs (hother _ hsid)
  · intro r hr
    obtain ⟨s, hs, rfl⟩ := List.mem_map.mp hr
    split
    · next hsid =>
      have hself : e.changes s.tenantId.text = true := by
        rw [Entry.changes, hsid, hretires, Bool.or_true]
      refine ⟨e, lastChange?_append_self hself, ?_, ?_⟩
      · rw [← he]
        rfl
      · rw [← he]
        rfl
    · next hsid =>
      rw [lastChange?_append_of_not (hother _ hsid)]
      exact hd.changed s hs

/-- **One call** leaves a directory that follows the history with that call. -/
theorem Follows.serve (hd : d.Follows h) (c : Call) :
    (d.serve c).2.Follows (h ++ [⟨c, (d.serve c).1⟩]) := by
  have hcases := outcome_serve d c
  generalize (d.serve c).1 = a at hcases ⊢
  generalize (d.serve c).2 = d' at hcases ⊢
  cases hcases with
  | found now id => exact hd.idle fun _ => rfl
  | listed now activeOnly => exact hd.idle fun _ => rfl
  | refused hcheck => exact hd.idle fun _ => rfl
  | taken hcheck htaken => exact hd.idle fun _ => rfl
  | created hcheck hfree => exact hd.created hfree
  | unknown hget => exact hd.idle fun _ => rfl
  | retired hget => exact hd.retired
  | flag now id => exact hd.idle fun _ => rfl
  | pinged now => exact hd.idle fun _ => rfl

end Step

/-- Every run leaves a directory that follows the history with that run. -/
theorem Follows.reached {h : List Entry} (hd : d.Follows h) (cs : List Call) :
    (d.reached cs).Follows (h ++ d.history cs) := by
  induction cs generalizing d h with
  | nil =>
    rw [history, List.append_nil]
    exact hd
  | cons c cs ih =>
    have hrest := ih (hd.serve c)
    rw [List.append_assoc] at hrest
    exact hrest

/-! ## What later calls leave -/

/-- A record and what has become of it: its origin is the same, and it is active only if it was
before. -/
structure Lasts (r r' : Record) : Prop where
  origin : r'.origin = r.origin
  active : r'.isActive = true → r.isActive = true

theorem lasts_serve (c : Call) {r : Record} (hr : r ∈ d.records) :
    ∃ r' ∈ (d.serve c).2.records, Lasts r r' := by
  have hsame : ∃ r' ∈ d.records, Lasts r r' := ⟨r, hr, rfl, id⟩
  have hcases := outcome_serve d c
  generalize (d.serve c).1 = a at hcases
  generalize (d.serve c).2 = d' at hcases ⊢
  cases hcases with
  | found now id => exact hsame
  | listed now activeOnly => exact hsame
  | refused hcheck => exact hsame
  | taken hcheck htaken => exact hsame
  | created hcheck hfree => exact ⟨r, mem_place.mpr (.inr hr), rfl, id⟩
  | unknown hget => exact hsame
  | retired hget =>
    refine ⟨_, List.mem_map_of_mem hr, ?_⟩
    split
    · exact ⟨rfl, fun hactive => absurd hactive Bool.false_ne_true⟩
    · exact ⟨rfl, id⟩
  | flag now id => exact hsame
  | pinged now => exact hsame

/-- No record is ever removed, and none comes to life again. -/
theorem lasts_reached (cs : List Call) {r : Record} (hr : r ∈ d.records) :
    ∃ r' ∈ (d.reached cs).records, Lasts r r' := by
  induction cs generalizing d r with
  | nil => exact ⟨r, hr, rfl, id⟩
  | cons c cs ih =>
    obtain ⟨s, hs, hrs⟩ := lasts_serve c hr
    obtain ⟨r', hr', hsr⟩ := ih hs
    exact ⟨r', hr', hsr.origin.trans hrs.origin, fun h => hrs.active (hsr.active h)⟩

/-! ## What is answered -/

/-- Answers are what the records say, and a failure says what is in the way. -/
structure Serves (d : Directory) : Prop where
  keyed : ∀ id r, d.get? id = some r ↔ r ∈ d.records ∧ r.tenantId.text = id
  refused : ∀ now t actor e, (d.serve ⟨now, .create t actor⟩).1 = .error e ↔
    (t.check = .error e ∧ ∃ reason, e = .validation reason) ∨
      t.check = .ok () ∧ (d.get? t.tenantId).isSome = true ∧ e = .tenantExists t.tenantId
  unknown : ∀ now id actor e, (d.serve ⟨now, .deactivate id actor⟩).1 = .error e ↔
    d.get? id = none ∧ e = .tenantNotFound id
  unchanged : ∀ c e, (d.serve c).1 = .error e → (d.serve c).2 = d
  found : ∀ now id, d.serve ⟨now, .get id⟩ = (.ok (.found (d.get? id)), d)
  flag : ∀ now id, d.serve ⟨now, .isActive id⟩ = (.ok (.flag (d.isActive id)), d)
  active : ∀ id, d.isActive id = true ↔ ∃ r, d.get? id = some r ∧ r.isActive = true
  listed : ∀ now activeOnly, ∃ rs, d.serve ⟨now, .list activeOnly⟩ = (.ok (.listed rs), d) ∧
    Ordered rs ∧ ∀ r, r ∈ rs ↔
      d.get? r.tenantId.text = some r ∧ (activeOnly = true → r.isActive = true)

theorem serves_of_ordered (h : Ordered d.records) : Serves d where
  keyed id r := get?_eq_some_iff h
  refused now t actor e := by
    have hcases := outcome_serve d ⟨now, .create t actor⟩
    generalize (d.serve ⟨now, .create t actor⟩).1 = a at hcases ⊢
    generalize (d.serve ⟨now, .create t actor⟩).2 = d' at hcases
    cases hcases with
    | refused hcheck =>
      rw [hcheck]
      simpa using fun heq => heq ▸ NewTenant.check_eq_error hcheck
    | taken hcheck htaken =>
      rw [hcheck]
      simp [htaken, eq_comm]
    | created hcheck hfree =>
      rw [hcheck, hfree]
      simp
  unknown now id actor e := by
    have hcases := outcome_serve d ⟨now, .deactivate id actor⟩
    generalize (d.serve ⟨now, .deactivate id actor⟩).1 = a at hcases ⊢
    generalize (d.serve ⟨now, .deactivate id actor⟩).2 = d' at hcases
    cases hcases with
    | unknown hget => simp [hget, eq_comm]
    | retired hget => simp [hget]
  unchanged c e he := by
    have hcases := outcome_serve d c
    rw [he] at hcases
    generalize (d.serve c).2 = d' at hcases ⊢
    cases hcases <;> rfl
  found now id := rfl
  flag now id := rfl
  active id := by
    unfold isActive
    rw [Option.any_eq_true]
  listed now activeOnly := by
    refine ⟨d.list activeOnly, rfl, List.Pairwise.filter _ h, fun r => ?_⟩
    rw [get?_eq_some_iff h, list, List.mem_filter]
    cases activeOnly <;> simp

/-- Whether a tenant is served is a question of its record alone: what is registered has a valid id,
so the look at the id before it turns nobody away who is active. -/
theorem answered_isServed (hd : d.Checked) {memo : TenantId.Memo} (hmemo : memo.Sound)
    (now : Instant) (id : String) :
    (d.answered (isServed (inMemory now) memo id)).1.map Prod.fst = .ok (d.isActive id) := by
  have hvalid := (hmemo.check id).1
  unfold isServed
  generalize memo.check id = answer at hvalid ⊢
  obtain ⟨valid, memo'⟩ := answer
  cases valid with
  | true => rfl
  | false =>
    show Except.ok false = _
    cases hget : d.get? id with
    | none => simp [isActive, hget]
    | some r =>
      have hid : r.tenantId.text = id := by simpa using List.find?_some hget
      have hr := (hd r (List.mem_of_find?_eq_some hget)).id
      rw [TenantId.isValid, hid, ← hvalid] at hr
      exact absurd hr Bool.false_ne_true

/-! ## Every run -/

/-- **A registry in memory is what has been done with it.** Whatever calls come, from whomever and
in whatever order: the directory follows the history of its answers, all its records were checked,
further answers are what the records say, and no later call takes a record away, changes its origin
or brings a tenant that was deactivated back. -/
theorem runs_told (cs : List Call) :
    (empty.reached cs).Follows (empty.history cs) ∧ (empty.reached cs).Checked ∧
      (empty.reached cs).Serves ∧
      (∀ later, ∀ r ∈ (empty.reached cs).records,
        ∃ r' ∈ (empty.reached (cs ++ later)).records, Lasts r r') ∧
      ∀ (memo : TenantId.Memo) (now : Instant) (id : String), memo.Sound →
        ((empty.reached cs).answered (isServed (inMemory now) memo id)).1.map Prod.fst =
          .ok ((empty.reached cs).isActive id) := by
  have hfollows : (empty.reached cs).Follows (empty.history cs) := follows_empty.reached cs
  have hchecked : (empty.reached cs).Checked := checked_of_reachable (reachable_reached .empty cs)
  refine ⟨hfollows, hchecked, serves_of_ordered hfollows.ordered, ?_, ?_⟩
  · intro later r hr
    rw [reached_append]
    exact lasts_reached later hr
  · intro memo now id hmemo
    exact answered_isServed hchecked hmemo now id

/-- Two tenants are registered and one of them is deactivated; three more calls fail. -/
def sampleCalls : List Call :=
  [⟨default, .create ⟨"globex", "Globex", none, none, none⟩ none⟩,
    ⟨default, .create ⟨"acme", "Acme", none, some "acme_prod", none⟩ (some 7)⟩,
    ⟨default, .deactivate "acme" (some 1)⟩,
    ⟨default, .create ⟨"acme", "Again", none, none, none⟩ (some 2)⟩,
    ⟨default, .deactivate "ghost" (some 3)⟩,
    ⟨default, .create ⟨"bad id", "Bad", none, none, none⟩ (some 4)⟩]

/-- The tenant that was deactivated keeps its record, and is not served. -/
theorem runs_told_sample :
    TenantId.Memo.Sound (.empty 8) ∧
      ((empty.history sampleCalls).map fun e => e.answer.toBool) =
        [true, true, true, false, false, false] ∧
      ((empty.reached sampleCalls).records.map fun r =>
        (r.tenantId.text, r.isActive, r.createdBy, r.changedBy)) =
        [("acme", false, some 7, some 1), ("globex", true, none, none)] ∧
      ((empty.reached sampleCalls).answered
        (isServed (inMemory default) (.empty 8) "acme")).1.map Prod.fst = .ok false := by
  obtain ⟨-, -, -, -, hserved⟩ := runs_told sampleCalls
  refine ⟨TenantId.Memo.sound_empty 8, by decide, by decide, ?_⟩
  rw [hserved (.empty 8) default "acme" (TenantId.Memo.sound_empty 8)]
  decide

end Directory

end Tenancy.Registry
