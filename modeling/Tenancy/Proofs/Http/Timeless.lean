import Tenancy.Http.Response
import Tenancy.Proofs.Registry.Reachable

/-!
# Moments aside

Two runs at different times leave different moments behind, in records and in what is answered, and
nothing else need differ. `timeless` takes the moments out of a record, a directory and a response.
What is read from a directory or done with it goes on without them: the same operations on two
directories that are alike but for moments succeed or fail alike, and leave directories that are
alike again. That is proved once for each operation of a directory.

Two runs at the same times may well be compared moments included. So whoever compares runs does it
at some `Closeness`, and compares what is `seen` at it.
-/

set_option autoImplicit false

namespace Tenancy

/-- How closely two runs are compared: moments count, or are left aside. -/
inductive Closeness where
  | exact
  | momentsAside
  deriving DecidableEq, Repr

/-- Two moments differ only where moments are left aside. -/
def Closeness.Allows (k : Closeness) (now now' : Instant) : Prop := now = now' ∨ k = .momentsAside

/-! ## Members of an object -/

namespace Json

/-- The members with other values. -/
def Members.withValues (f : String → Json → Json) (members : Members) : Members :=
  members.map fun m => (m.1, f m.1 m.2)

section WithValues

variable (f : String → Json → Json)

theorem Members.withValues_insert (members : Members) (name : String) (value : Json) :
    (members.insert name value).withValues f =
      (members.withValues f).insert name (f name value) := by
  induction members with
  | nil => rfl
  | cons m rest ih =>
    obtain ⟨n, v⟩ := m
    unfold insert
    by_cases hlt : name < n
    · simp [withValues, hlt]
    · by_cases heq : n = name
      · simp [withValues, heq]
      · simpa [withValues, hlt, heq] using ih

theorem Members.withValues_ofPairs (pairs : List (String × Json)) :
    (ofPairs pairs).withValues f = ofPairs (pairs.map fun p => (p.1, f p.1 p.2)) := by
  -- the induction is on the pairs that are still to be set; what was set before is general
  have hfold : ∀ members : Members,
      (pairs.foldl (fun ms p => ms.insert p.1 p.2) members).withValues f =
        (pairs.map fun p => (p.1, f p.1 p.2)).foldl (fun ms p => ms.insert p.1 p.2)
          (members.withValues f) := by
    induction pairs with
    | nil => exact fun _ => rfl
    | cons p ps ih =>
      intro members
      rw [List.foldl_cons, ih, List.map_cons, List.foldl_cons, withValues_insert]
  exact hfold []

end WithValues

/-- The members that tell a moment. -/
def momentNames : List String := ["created_on", "changed_on", "resolved_at"]

/-- A member's value, or nothing where it tells a moment. -/
def withoutMoment (name : String) (value : Json) : Json :=
  if momentNames.contains name then .null else value

/-- A value without the moments that its members tell. -/
def timeless : Json → Json
  | .object members => .object (Members.withValues withoutMoment members)
  | j => j

/-- What is compared of a value. -/
def seen : Closeness → Json → Json
  | .exact, j => j
  | .momentsAside, j => j.timeless

theorem timeless_ofPairs (pairs : List (String × Json)) :
    (ofPairs pairs).timeless = ofPairs (pairs.map fun p => (p.1, withoutMoment p.1 p.2)) :=
  congrArg Json.object (Members.withValues_ofPairs withoutMoment pairs)

end Json

namespace Registry

/-! ## Records -/

/-- A record without the moments of its creation and last change. -/
def Record.timeless (r : Record) : Record := { r with createdOn := default, changedOn := default }

/-- What is compared of a record. -/
def Record.seen : Closeness → Record → Record
  | .exact, r => r
  | .momentsAside, r => r.timeless

/-- Data about a record without moments is data about the record without moments. -/
theorem Record.timeless_toJson (r : Record) : r.toJson.timeless = r.timeless.toJson.timeless := by
  have hcreated : ∀ value, Json.withoutMoment "created_on" value = .null := fun _ => rfl
  have hchanged : ∀ value, Json.withoutMoment "changed_on" value = .null := fun _ => rfl
  rw [toJson, toJson, Json.timeless_ofPairs, Json.timeless_ofPairs]
  simp only [List.map_cons, List.map_nil, hcreated, hchanged]
  rfl

theorem Record.seen_toJson (k : Closeness) (r : Record) :
    r.toJson.seen k = (r.seen k).toJson.seen k := by
  cases k with
  | exact => rfl
  | momentsAside => exact r.timeless_toJson

theorem Record.toJson_congr {k : Closeness} {r r' : Record} (h : r.seen k = r'.seen k) :
    r.toJson.seen k = r'.toJson.seen k := by
  rw [seen_toJson, h, ← seen_toJson]

theorem Record.map_toJson_congr {k : Closeness} {rs rs' : List Record}
    (h : rs.map (seen k) = rs'.map (seen k)) :
    (rs.map toJson).map (Json.seen k) = (rs'.map toJson).map (Json.seen k) := by
  have hmap : ∀ rs : List Record, (rs.map toJson).map (Json.seen k) =
      (rs.map (seen k)).map fun r => r.toJson.seen k := by
    intro rs
    rw [List.map_map, List.map_map]
    exact List.map_congr_left fun r _ => r.seen_toJson k
  rw [hmap, hmap, h]

/-! ## Directories -/

namespace Directory

/-- A directory without the moments of its records. -/
def timeless (d : Directory) : Directory := ⟨d.records.map Record.timeless⟩

/-- What a change of a directory answers, and the directory it leaves, without moments. -/
def timelessly (outcome : Except Error (Record × Directory)) : Except Error (Record × Directory) :=
  outcome.map fun p => (p.1.timeless, p.2.timeless)

/-- What is compared of a directory. -/
def seen : Closeness → Directory → Directory
  | .exact, d => d
  | .momentsAside, d => d.timeless

/-- What is compared of a change of a directory. -/
def seenly (k : Closeness) (outcome : Except Error (Record × Directory)) :
    Except Error (Record × Directory) :=
  outcome.map fun p => (p.1.seen k, p.2.seen k)

section Timeless

variable (d : Directory)

theorem get?_timeless (id : String) : d.timeless.get? id = (d.get? id).map Record.timeless := by
  rw [get?, timeless, List.find?_map]
  rfl

theorem list_timeless (activeOnly : Bool) :
    d.timeless.list activeOnly = (d.list activeOnly).map Record.timeless := by
  rw [list, timeless, List.filter_map]
  rfl

theorem map_place (r : Record) (rs : List Record) :
    (place r rs).map Record.timeless = place r.timeless (rs.map Record.timeless) := by
  induction rs with
  | nil => rfl
  | cons s rest ih =>
    unfold place
    show List.map _ (if r.tenantId.text < s.tenantId.text then _ else _) =
      if r.tenantId.text < s.tenantId.text then _ else _
    split
    · rfl
    · rw [List.map_cons, ih]

theorem timeless_place (r : Record) (rs : List Record) :
    timeless ⟨place r rs⟩ = ⟨place r.timeless (rs.map Record.timeless)⟩ :=
  congrArg Directory.mk (map_place r rs)

theorem create_timeless (t : NewTenant) (actor : Option Int) (now now' : Instant) :
    timelessly (d.create t actor now) = timelessly (d.timeless.create t actor now') := by
  unfold create
  rw [get?_timeless, Option.isSome_map]
  cases t.check with
  | error e => rfl
  | ok _ =>
    show timelessly (if _ then _ else _) = timelessly (if _ then _ else _)
    split
    · rfl
    · show Except.ok ((t.record actor now).timeless, _) =
        Except.ok ((t.record actor now').timeless, timeless ⟨place (t.record actor now') _⟩)
      rw [timeless_place, timeless_place, timeless, List.map_map]
      rfl

theorem deactivate_timeless (id : String) (actor : Option Int) (now now' : Instant) :
    timelessly (d.deactivate id actor now) = timelessly (d.timeless.deactivate id actor now') := by
  unfold deactivate
  rw [get?_timeless]
  cases d.get? id with
  | none => rfl
  | some r =>
    have hrecords : ∀ s : Record,
        (if s.tenantId.text = id then deactivated s actor now else s).timeless =
          (if s.timeless.tenantId.text = id then deactivated s.timeless actor now'
            else s.timeless).timeless := by
      intro s
      show Record.timeless (if s.tenantId.text = id then _ else _) =
        Record.timeless (if s.tenantId.text = id then _ else _)
      split <;> rfl
    refine congrArg Except.ok (Prod.ext rfl (congrArg Directory.mk ?_))
    rw [List.map_map, timeless, List.map_map, List.map_map]
    exact List.map_congr_left fun s _ => hrecords s

end Timeless

variable {k : Closeness} {d d' : Directory} (h : d.seen k = d'.seen k)
include h

/-- **The same tenant is registered alike in directories that are alike.** -/
theorem create_congr {now now' : Instant} (hnow : k.Allows now now') (t : NewTenant)
    (actor : Option Int) : seenly k (d.create t actor now) = seenly k (d'.create t actor now') := by
  cases k with
  | exact =>
    obtain rfl : d = d' := h
    obtain rfl : now = now' := hnow.resolve_right Closeness.noConfusion
    rfl
  | momentsAside =>
    have htimeless : d.timeless = d'.timeless := h
    show timelessly _ = timelessly _
    rw [create_timeless d t actor now now', htimeless, ← create_timeless d' t actor now' now']

/-- **The same tenant is deactivated alike.** -/
theorem deactivate_congr {now now' : Instant} (hnow : k.Allows now now') (id : String)
    (actor : Option Int) :
    seenly k (d.deactivate id actor now) = seenly k (d'.deactivate id actor now') := by
  cases k with
  | exact =>
    obtain rfl : d = d' := h
    obtain rfl : now = now' := hnow.resolve_right Closeness.noConfusion
    rfl
  | momentsAside =>
    have htimeless : d.timeless = d'.timeless := h
    show timelessly _ = timelessly _
    rw [deactivate_timeless d id actor now now', htimeless,
      ← deactivate_timeless d' id actor now' now']

theorem get?_congr (id : String) :
    (d.get? id).map (Record.seen k) = (d'.get? id).map (Record.seen k) := by
  cases k with
  | exact => exact congrArg (fun d : Directory => (d.get? id).map (Record.seen .exact)) h
  | momentsAside =>
    have htimeless : d.timeless = d'.timeless := h
    show (d.get? id).map Record.timeless = (d'.get? id).map Record.timeless
    rw [← get?_timeless, htimeless, get?_timeless]

theorem list_congr (activeOnly : Bool) :
    (d.list activeOnly).map (Record.seen k) = (d'.list activeOnly).map (Record.seen k) := by
  cases k with
  | exact => exact congrArg (fun d : Directory => (d.list activeOnly).map (Record.seen .exact)) h
  | momentsAside =>
    have htimeless : d.timeless = d'.timeless := h
    show (d.list activeOnly).map Record.timeless = (d'.list activeOnly).map Record.timeless
    rw [← list_timeless, htimeless, list_timeless]

end Directory

end Registry

/-! ## Responses -/

namespace Http.Response

/-- The data of a response without moments. -/
def timelessData : Json → Json
  | .array items => .array (items.map Json.timeless)
  | j => j.timeless

/-- A member of a response without the moments that it tells if it is the data. -/
def timelessMember (name : String) (value : Json) : Json :=
  if name = "data" then timelessData value else value

/-- A response without the moments that its data tell. -/
def timeless (r : Response) : Response :=
  match r.body with
  | .json (.object members) =>
    { r with body := .json (.object (Json.Members.withValues timelessMember members)) }
  | _ => r

theorem timeless_json (status : Nat) (pairs : List (String × Json)) :
    (json status (.ofPairs pairs)).timeless =
      json status (.ofPairs (pairs.map fun p => (p.1, timelessMember p.1 p.2))) :=
  congrArg (fun members => json status (.object members))
    (Json.Members.withValues_ofPairs timelessMember pairs)

/-- What is compared of a response. -/
def seen : Closeness → Response → Response
  | .exact, r => r
  | .momentsAside, r => r.timeless

section Congr

variable {k : Closeness}

/-- Data that is no list is compared as a whole. -/
theorem one_congr (status : Nat) {j j' : Json} (hj : timelessData j = j.timeless)
    (hj' : timelessData j' = j'.timeless) (h : j.seen k = j'.seen k) :
    (one status j).seen k = (one status j').seen k := by
  cases k with
  | exact => exact congrArg (one status) h
  | momentsAside =>
    have hdata : ∀ value, timelessMember "data" value = timelessData value := fun _ => rfl
    have htimeless : j.timeless = j'.timeless := h
    show (one status j).timeless = (one status j').timeless
    rw [one, one, timeless_json, timeless_json]
    simp only [List.map_cons, List.map_nil, hdata, hj, hj', htimeless]

/-- A list of data is compared one by one. -/
theorem many_congr {items items' : List Json}
    (h : items.map (Json.seen k) = items'.map (Json.seen k)) :
    (many items).seen k = (many items').seen k := by
  cases k with
  | exact =>
    have hid : Json.seen .exact = id := rfl
    rw [hid, List.map_id, List.map_id] at h
    rw [h]
  | momentsAside =>
    have hlength : items.length = items'.length := by
      have hmapped := congrArg List.length h
      rwa [List.length_map, List.length_map] at hmapped
    have hdata : ∀ items,
        timelessMember "data" (.array items) = .array (items.map Json.timeless) := fun _ => rfl
    have htimeless : items.map Json.timeless = items'.map Json.timeless := h
    show (many items).timeless = (many items').timeless
    rw [many, many, timeless_json, timeless_json]
    simp only [List.map_cons, List.map_nil, hdata, htimeless, hlength]

end Congr

@[simp] theorem seen_allowing (k : Closeness) (r : Response) (methods : List String) :
    (r.allowing methods).seen k = (r.seen k).allowing methods := by
  cases k with
  | exact => rfl
  | momentsAside =>
    obtain ⟨status, contentType, allow, body⟩ := r
    rcases body with (_ | _ | _ | _ | _ | members) | text <;> rfl

@[simp] theorem seen_withoutBody (k : Closeness) (r : Response) :
    r.withoutBody.seen k = (r.seen k).withoutBody := by
  cases k with
  | exact => rfl
  | momentsAside =>
    obtain ⟨status, contentType, allow, body⟩ := r
    rcases body with (_ | _ | _ | _ | _ | members) | text <;> rfl

end Http.Response

end Tenancy
