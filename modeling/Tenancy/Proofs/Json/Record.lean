import Tenancy.Json.Reader
import Tenancy.Proofs.Json.Token
import Tenancy.Proofs.Json.Value
import Tenancy.Proofs.Text.Split

/-!
# Reading back a record that was written

An object is written as names and the texts of their values (`documentChars`). It describes a record
if the fields among the names have the record's values, as these are printed, and what stands behind
any other name is a JSON value, whichever it is (`Describes`). Then reading it finds the values of
the fields that are there, in whatever order they stand (`exists_readRecord_documentChars`).
-/

set_option autoImplicit false

namespace Tenancy.Json

open Text

/-! ## Documents and their tokens -/

/-- A name with the text of its value. -/
def memberChars (m : String × List Char) : List Char := renderText m.1 ++ ':' :: m.2

/-- An object of such members. -/
def documentChars (ms : List (String × List Char)) : List Char :=
  '\x7b' :: ([','].intercalate (ms.map memberChars) ++ ['\x7d'])

/-- A printed object is one of them. -/
theorem render_object (ms : Members) :
    (Json.object ms).render = documentChars (ms.map fun m => (m.1, m.2.render)) := by
  have hmembers : renderMembers ms =
      [','].intercalate ((ms.map fun m => (m.1, m.2.render)).map memberChars) := by
    induction ms with
    | nil => rfl
    | cons m ms ih =>
      cases ms with
      | nil => simp [renderMembers, memberChars]
      | cons m' ms =>
        rw [renderMembers, ih]
        · simp [memberChars, List.intercalate_cons_cons]
        · rintro ⟨⟩
  rw [render, hmembers]
  rfl

/-- The tokens of a member. -/
def memberTokens (m : String × List Char) : List Token := .text m.1 :: .colon :: tokens m.2

/-- The tokens between the brackets of an object. -/
def membersTokens (ms : List (String × List Char)) : List Token :=
  [.comma].intercalate (ms.map memberTokens)

theorem tokens_memberChars (m : String × List Char) : tokens (memberChars m) = memberTokens m := by
  have hname : Token.bad ∉ tokens (renderText m.1) := by
    rw [tokens_renderText]
    simp
  rw [memberChars, tokens_append hname (.inr (.inl rfl)), tokens_renderText]
  rfl

theorem bad_not_mem_memberTokens {m : String × List Char} (h : Token.bad ∉ tokens m.2) :
    Token.bad ∉ memberTokens m := by
  simp [memberTokens, h]

theorem bad_not_mem_membersTokens {ms : List (String × List Char)}
    (h : ∀ m ∈ ms, Token.bad ∉ tokens m.2) : Token.bad ∉ membersTokens ms := by
  intro hbad
  rcases mem_intercalate.mp hbad with ⟨ts, hts, hbad⟩ | ⟨heq, -⟩
  · obtain ⟨m, hm, rfl⟩ := List.mem_map.mp hts
    exact bad_not_mem_memberTokens (h m hm) hbad
  · cases heq

theorem tokens_members {ms : List (String × List Char)} (h : ∀ m ∈ ms, Token.bad ∉ tokens m.2) :
    tokens ([','].intercalate (ms.map memberChars)) = membersTokens ms := by
  induction ms with
  | nil => rfl
  | cons m ms ih =>
    cases ms with
    | nil => simp [membersTokens, tokens_memberChars]
    | cons m' ms =>
      have hm : Token.bad ∉ tokens (memberChars m) := by
        rw [tokens_memberChars]
        exact bad_not_mem_memberTokens (h m List.mem_cons_self)
      have hrest := ih fun x hx => h x (List.mem_cons_of_mem _ hx)
      calc tokens ([','].intercalate ((m :: m' :: ms).map memberChars))
        _ = tokens (memberChars m ++ ',' :: [','].intercalate ((m' :: ms).map memberChars)) := by
          simp [List.intercalate_cons_cons]
        _ = memberTokens m ++ .comma :: tokens ([','].intercalate ((m' :: ms).map memberChars)) := by
          rw [tokens_append hm (.inl rfl), tokens_memberChars]
          rfl
        _ = membersTokens (m :: m' :: ms) := by
          rw [hrest]
          simp [membersTokens, List.intercalate_cons_cons]

theorem tokens_documentChars {ms : List (String × List Char)}
    (h : ∀ m ∈ ms, Token.bad ∉ tokens m.2) :
    tokens (documentChars ms) = .openObject :: (membersTokens ms ++ [.closeObject]) := by
  have hinner : Token.bad ∉ tokens ([','].intercalate (ms.map memberChars)) := by
    rw [tokens_members h]
    exact bad_not_mem_membersTokens h
  calc tokens (documentChars ms)
    _ = .openObject :: tokens ([','].intercalate (ms.map memberChars) ++ ['\x7d']) := rfl
    _ = .openObject :: (membersTokens ms ++ [.closeObject]) := by
      rw [tokens_append hinner (.inr (.inr rfl)), tokens_members h]
      rfl

/-! ## Values of fields -/

/-- The values of the shapes that are told apart by one token. -/
inductive Fits : Shape → Json → Prop
  | text (s : String) : Fits .text (.text s)
  | someText (s : String) : Fits .textOrNull (.text s)
  | noText : Fits .textOrNull .null
  | flag (b : Bool) : Fits .flag (.bool b)
  | word {n : Nat} : n ≤ Natural.max64 → Fits .word (.ofNat n)

theorem Fits.exists_token {shape : Shape} {v : Json} (h : Fits shape v) :
    ∃ t, tokens v.render = [t] ∧ (Manner.keep 0).scalar? t = some v ∧
      Reader.fits shape t = true := by
  cases h with
  | text s | someText s => exact ⟨_, tokens_renderText s, rfl, rfl⟩
  | noText => exact ⟨.null, rfl, rfl, rfl⟩
  | flag b => cases b <;> exact ⟨_, rfl, rfl, rfl⟩
  | @word n hn =>
    have hrender : (ofNat n).render = Nat.toDigits 10 n := by
      change (Nat.repr n).toList = Nat.toDigits 10 n
      exact Nat.toList_repr
    refine ⟨.number (.whole n), ?_, rfl, ?_⟩
    · rw [hrender, tokens_toDigits hn]
    · simp [Reader.fits]

/-- A field's value is read back from its text. -/
theorem Fits.fieldValue_eq {shape : Shape} {v : Json} (h : Fits shape v) (rest : List Token) :
    Reader.fieldValue shape (tokens v.render ++ rest) = .ok (v, rest) := by
  obtain ⟨t, htokens, hscalar, hfits⟩ := h.exists_token
  rw [htokens]
  cases h <;> simp [Reader.fieldValue, hscalar, hfits]

theorem Fits.bad_not_mem {shape : Shape} {v : Json} (h : Fits shape v) :
    Token.bad ∉ tokens v.render := by
  obtain ⟨t, htokens, hscalar, -⟩ := h.exists_token
  rw [htokens, List.mem_singleton]
  rintro rfl
  cases hscalar

/-! ## Reading -/

/-- The names of the fields. -/
def fieldNames (fields : List Field) : List String := fields.map (·.name)

/-- Members that describe a record: a field has the record's value, as it is printed, and stands
once; any other name has a JSON value. -/
structure Describes (fields : List Field) (value : String → Option Json)
    (ms : List (String × List Char)) : Prop where
  given : ∀ m ∈ ms, m.1 ∈ fieldNames fields →
    ∃ v, value m.1 = some v ∧ tokens m.2 = tokens v.render
  other : ∀ m ∈ ms, m.1 ∉ fieldNames fields → IsValue (tokens m.2)
  once : ms.Pairwise fun a b => a.1 = b.1 → a.1 ∉ fieldNames fields

theorem find?_eq_none_of_not_mem {fields : List Field} {name : String}
    (h : name ∉ fieldNames fields) : fields.find? (·.name == name) = none := by
  refine List.find?_eq_none.mpr fun f hf hname => h ?_
  exact List.mem_map.mpr ⟨f, hf, beq_iff_eq.mp hname⟩

theorem exists_find?_of_mem {fields : List Field} {name : String} (h : name ∈ fieldNames fields) :
    ∃ f ∈ fields, f.name = name ∧ fields.find? (·.name == name) = some f := by
  obtain ⟨f, hf, hname⟩ := List.mem_map.mp h
  have hsome : (fields.find? (·.name == name)).isSome :=
    List.find?_isSome.mpr ⟨f, hf, beq_iff_eq.mpr hname⟩
  obtain ⟨f, hfind⟩ := Option.isSome_iff_exists.mp hsome
  have hname : f.name = name := by simpa using List.find?_some hfind
  exact ⟨f, List.mem_of_find?_eq_some hfind, hname, hfind⟩

section Reading

variable {fields : List Field} {value : String → Option Json} {m : String × List Char}
  {ms : List (String × List Char)} {acc : Members}

theorem Describes.tail (h : Describes fields value (m :: ms)) : Describes fields value ms :=
  ⟨fun m hm => h.given m (List.mem_cons_of_mem _ hm),
    fun m hm => h.other m (List.mem_cons_of_mem _ hm), (List.pairwise_cons.mp h.once).2⟩

variable (hfits : ∀ f ∈ fields, ∀ v, value f.name = some v → Fits f.shape v)

include hfits

theorem Describes.bad_not_mem (h : Describes fields value ms) :
    ∀ m ∈ ms, Token.bad ∉ tokens m.2 := by
  intro m hm
  by_cases hname : m.1 ∈ fieldNames fields
  · obtain ⟨v, hv, htokens⟩ := h.given m hm hname
    obtain ⟨f, hf, hfname, -⟩ := exists_find?_of_mem hname
    rw [htokens]
    exact (hfits f hf v (hfname ▸ hv)).bad_not_mem
  · exact (h.other m hm hname).bad_not_mem

/-- One member: a field gets its value, and nothing else changes. -/
theorem Describes.exists_member (h : Describes fields value (m :: ms))
    (hfresh : m.1 ∈ fieldNames fields → acc.get? m.1 = none) (rest : List Token) :
    ∃ acc' : Members,
      Reader.members.member fields acc m.1 (.colon :: (tokens m.2 ++ rest)) = .ok (acc', rest) ∧
        ∀ name ∈ fieldNames fields,
          acc'.get? name = if name = m.1 then value name else acc.get? name := by
  by_cases hname : m.1 ∈ fieldNames fields
  · obtain ⟨v, hv, htokens⟩ := h.given m List.mem_cons_self hname
    obtain ⟨f, hf, hfname, hfind⟩ := exists_find?_of_mem hname
    have hread := (hfits f hf v (hfname ▸ hv)).fieldValue_eq rest
    refine ⟨acc.insert f.name v, ?_, fun name _ => ?_⟩
    · simp only [Reader.members.member, hfind, hfresh hname, htokens, hread, hfname]
      rfl
    · rw [hfname]
      split
      · next heq => rw [heq, hv, Members.get?_insert_self]
      · next hne => exact Members.get?_insert_of_ne acc v hne
  · refine ⟨acc, ?_, fun name hmem => ?_⟩
    · simp only [Reader.members.member, find?_eq_none_of_not_mem hname]
      rw [(h.other m List.mem_cons_self hname).skip_append rest]
    · have hne : name ≠ m.1 := fun heq => hname (heq ▸ hmem)
      rw [if_neg hne]

/-- All members from a name on; the induction is on the members, and a field that is still to come
has no value yet. -/
theorem Describes.exists_members (h : Describes fields value (m :: ms))
    (hfresh : ∀ x ∈ m :: ms, x.1 ∈ fieldNames fields → acc.get? x.1 = none) {turns : Nat}
    (hturns : (membersTokens (m :: ms)).length ≤ turns) (rest : List Token) :
    ∃ found : Members,
      Reader.members fields turns acc (membersTokens (m :: ms) ++ .closeObject :: rest) =
          Reader.complete fields found rest ∧
        ∀ name ∈ fieldNames fields,
          found.get? name = if name ∈ (m :: ms).map (·.1) then value name else acc.get? name := by
  induction ms generalizing m acc turns with
  | nil =>
    obtain ⟨acc', hmember, hget⟩ :=
      h.exists_member hfits (hfresh m List.mem_cons_self) (.closeObject :: rest)
    cases turns with
    | zero => simp [membersTokens, memberTokens] at hturns
    | succ turns =>
      refine ⟨acc', ?_, fun name hname => ?_⟩
      · have htokens : membersTokens [m] = memberTokens m := List.intercalate_singleton
        rw [htokens, memberTokens, List.cons_append, List.cons_append, Reader.members, hmember]
        rfl
      · rw [hget name hname]
        simp
  | cons m' ms ih =>
    have htokens : membersTokens (m :: m' :: ms) =
        memberTokens m ++ .comma :: membersTokens (m' :: ms) := by
      simp [membersTokens, List.intercalate_cons_cons]
    rw [htokens] at hturns ⊢
    cases turns with
    | zero => simp [memberTokens] at hturns
    | succ turns =>
      obtain ⟨acc', hmember, hget⟩ := h.exists_member hfits (hfresh m List.mem_cons_self)
        (.comma :: (membersTokens (m' :: ms) ++ .closeObject :: rest))
      have hfresh' : ∀ x ∈ m' :: ms, x.1 ∈ fieldNames fields → acc'.get? x.1 = none := by
        intro x hx hname
        have hne : x.1 ≠ m.1 := fun heq =>
          (List.pairwise_cons.mp h.once).1 x hx heq.symm (heq ▸ hname)
        rw [hget x.1 hname, if_neg hne]
        exact hfresh x (List.mem_cons_of_mem _ hx) hname
      have hturns' : (membersTokens (m' :: ms)).length ≤ turns := by
        simp only [memberTokens, List.length_append, List.length_cons] at hturns
        omega
      obtain ⟨found, hfound, hgetfound⟩ := ih h.tail hfresh' hturns'
      refine ⟨found, ?_, fun name hname => ?_⟩
      · rw [← hfound, List.append_assoc, List.cons_append, memberTokens, List.cons_append,
          List.cons_append, Reader.members, hmember]
        rfl
      · have hmem : name ∈ (m :: m' :: ms).map (·.1) ↔
            name = m.1 ∨ name ∈ (m' :: ms).map (·.1) := List.mem_cons
        rw [hgetfound name hname, hget name hname]
        simp only [hmem]
        by_cases heq : name = m.1
        · rw [if_pos heq, ite_self, if_pos (.inl heq)]
        · simp only [heq, if_false, false_or]

/-- **What a document says of a record's fields is read from it.** -/
theorem Describes.exists_readRecord (h : Describes fields value ms)
    (hrequired : ∀ f ∈ fields, f.presence = .required → f.name ∈ ms.map (·.1)) :
    ∃ found : Members, readRecord fields (tokens (documentChars ms)) = .ok (found, []) ∧
      ∀ name ∈ fieldNames fields,
        found.get? name = if name ∈ ms.map (·.1) then value name else none := by
  have hread : ∃ found : Members,
      readRecord fields (tokens (documentChars ms)) = Reader.complete fields found [] ∧
        ∀ name ∈ fieldNames fields,
          found.get? name = if name ∈ ms.map (·.1) then value name else none := by
    rw [tokens_documentChars (h.bad_not_mem hfits)]
    cases ms with
    | nil => exact ⟨[], rfl, fun name _ => by simp⟩
    | cons m ms =>
      have hturns : (membersTokens (m :: ms)).length ≤
          (membersTokens (m :: ms) ++ [Token.closeObject]).length := by simp
      obtain ⟨found, hfound, hget⟩ :=
        h.exists_members hfits (fun _ _ _ => Members.get?_nil _) hturns []
      refine ⟨found, ?_, hget⟩
      rw [← hfound]
      cases ms <;> rfl
  obtain ⟨found, hfound, hget⟩ := hread
  refine ⟨found, ?_, hget⟩
  have hall : (fields.all fun f =>
      f.presence ≠ .required || (Members.get? found f.name).isSome) = true := by
    refine List.all_eq_true.mpr fun f hf => ?_
    by_cases hp : f.presence = .required
    · have hmem := hrequired f hf hp
      obtain ⟨m, hm, hname⟩ := List.mem_map.mp hmem
      have hfield : f.name ∈ fieldNames fields := List.mem_map.mpr ⟨f, hf, rfl⟩
      obtain ⟨v, hv, -⟩ := h.given m hm (hname ▸ hfield)
      rw [hname] at hv
      simp [hget f.name hfield, hmem, hv]
    · simp [hp]
  rw [hfound, Reader.complete, if_pos hall]

end Reading

end Tenancy.Json
