import Tenancy.Json.Parser

/-!
# JSON values that are passed over

Which tokens make up a value is said by a grammar (`Derives`), without a stack and without a limit on
the depth. Passing over a value takes exactly its tokens, whatever stands behind them
(`IsValue.skip_append`): the induction is on the derivation, and what it says of each part of the
grammar is how the stack of open brackets looks before and after (`Passes`).
-/

set_option autoImplicit false

namespace Tenancy.Json

/-! ## The grammar -/

/-- A value that is one token; it need not stand for anything. -/
def IsScalar : Token → Prop
  | .null | .bool _ | .number _ | .text _ | .hugeNumber | .loneSurrogate => True
  | _ => False

/-- The name of a member. -/
def IsName : Token → Prop
  | .text _ | .loneSurrogate => True
  | _ => False

/-- What tokens may be: a value, or what stands behind an element of an array or behind a member of
an object, up to the bracket that closes it. -/
inductive Part where
  | value
  | moreItems
  | moreMembers

/-- The tokens of each part. -/
inductive Derives : Part → List Token → Prop
  | scalar {t : Token} : IsScalar t → Derives .value [t]
  | emptyArray : Derives .value [.openArray, .closeArray]
  | array {ts more : List Token} :
      Derives .value ts → Derives .moreItems more → Derives .value (.openArray :: (ts ++ more))
  | emptyObject : Derives .value [.openObject, .closeObject]
  | object {n : Token} {ts more : List Token} : IsName n → Derives .value ts →
      Derives .moreMembers more → Derives .value (.openObject :: n :: .colon :: (ts ++ more))
  | endArray : Derives .moreItems [.closeArray]
  | item {ts more : List Token} :
      Derives .value ts → Derives .moreItems more → Derives .moreItems (.comma :: (ts ++ more))
  | endObject : Derives .moreMembers [.closeObject]
  | member {n : Token} {ts more : List Token} : IsName n → Derives .value ts →
      Derives .moreMembers more → Derives .moreMembers (.comma :: n :: .colon :: (ts ++ more))

/-- Whether tokens are one JSON value. -/
def IsValue (ts : List Token) : Prop := Derives .value ts

theorem IsScalar.ne_bad {t : Token} (h : IsScalar t) : Token.bad ≠ t := by
  rintro rfl
  exact h

theorem IsName.ne_bad {t : Token} (h : IsName t) : Token.bad ≠ t := by
  rintro rfl
  exact h

theorem Derives.bad_not_mem {p : Part} {ts : List Token} (h : Derives p ts) : Token.bad ∉ ts := by
  induction h with
  | scalar ht => simp [ht.ne_bad]
  | emptyArray | emptyObject | endArray | endObject => decide
  | array _ _ ih ihmore | item _ _ ih ihmore => simp [ih, ihmore]
  | object hn _ _ ih ihmore | member hn _ _ ih ihmore => simp [ih, ihmore, hn.ne_bad]

/-! ## One token -/

namespace Manner

variable {m : Manner} {stage stage' : Stage} {frames frames' : List Frame} {t : Token}

theorem run_cons_of_step (h : m.step stage frames t = some (stage', frames')) (ts : List Token) :
    run m stage frames (t :: ts) = run m stage' frames' ts := by
  cases stage with
  | after v =>
    cases frames with
    | nil => cases h
    | cons f frames => rw [run, h]; rintro _ _ ⟨⟩
  | value | firstItem | firstName | name | colon => rw [run, h]; rintro _ ⟨⟩

theorem run_after_nil (v : Json) (ts : List Token) : run m (.after v) [] ts = some (v, ts) := by
  cases ts <;> rfl

theorem exists_step_scalar (h : IsScalar t) (frames : List Frame) :
    ∃ v, Manner.pass.step .value frames t = some (.after v, frames) := by
  cases t with
  | null | bool | number | text | hugeNumber | loneSurrogate => exact ⟨_, rfl⟩
  | openArray | closeArray | openObject | closeObject | comma | colon | bad => exact h.elim

theorem exists_text?_of_isName (h : IsName t) : ∃ s, Manner.pass.text? t = some s := by
  cases t with
  | text | loneSurrogate => exact ⟨_, rfl⟩
  | openArray | closeArray | openObject | closeObject | comma | colon | null | bool | number
  | hugeNumber | bad => exact h.elim

end Manner

/-! ## Passing over -/

open Manner

/-- A value leaves the stack as it is; what closes a bracket takes its frame off. -/
def Passes : Part → List Token → Prop
  | .value, ts => ∀ frames rest, ∃ v,
      run .pass .value frames (ts ++ rest) = run .pass (.after v) frames rest
  | .moreItems, ts => ∀ v done frames rest, ∃ w,
      run .pass (.after v) (.array done :: frames) (ts ++ rest) = run .pass (.after w) frames rest
  | .moreMembers, ts => ∀ v done name frames rest, ∃ w,
      run .pass (.after v) (.object done name :: frames) (ts ++ rest) =
        run .pass (.after w) frames rest

section Parts

variable {ts more : List Token}

/-- No value begins with the end of an array, so the first element may be read like any other. -/
theorem Derives.run_firstItem (h : Derives .value ts) (frames : List Frame) (rest : List Token) :
    run .pass .firstItem frames (ts ++ rest) =
      run .pass .value (.array [] :: frames) (ts ++ rest) := by
  have hread : ∀ t, t ≠ Token.closeArray → ∀ ts, run .pass .firstItem frames (t :: ts) =
      run .pass .value (.array [] :: frames) (t :: ts) := by
    intro t ht ts
    have hstep : Manner.pass.step .firstItem frames t =
        Manner.pass.step .value (.array [] :: frames) t := if_neg ht
    simp only [run, hstep]
  cases h with
  | scalar ht =>
    refine hread _ ?_ _
    rintro rfl
    exact ht
  | emptyArray | array _ _ => exact hread _ (by decide) _
  | emptyObject | object _ _ _ => exact hread _ (by decide) _

/-- An element with all that stands behind it. -/
theorem Passes.items (h : Passes .value ts) (hmore : Passes .moreItems more) (done : List Json)
    (frames : List Frame) (rest : List Token) :
    ∃ v, run .pass .value (.array done :: frames) (ts ++ more ++ rest) =
      run .pass (.after v) frames rest := by
  rw [List.append_assoc]
  obtain ⟨v, hv⟩ := h (.array done :: frames) (more ++ rest)
  rw [hv]
  exact hmore v done frames rest

/-- A member with all that stands behind it, from its colon on. -/
theorem Passes.members (h : Passes .value ts) (hmore : Passes .moreMembers more) (done : Members)
    (name : String) (frames : List Frame) (rest : List Token) :
    ∃ v, run .pass (.colon done name) frames (.colon :: (ts ++ more) ++ rest) =
      run .pass (.after v) frames rest := by
  rw [List.cons_append, List.append_assoc, run_cons_of_step rfl]
  obtain ⟨v, hv⟩ := h (.object done name :: frames) (more ++ rest)
  rw [hv]
  exact hmore v done name frames rest

end Parts

theorem Derives.passes {p : Part} {ts : List Token} (h : Derives p ts) : Passes p ts := by
  induction h with
  | scalar ht =>
    intro frames rest
    obtain ⟨v, hv⟩ := exists_step_scalar ht frames
    exact ⟨v, run_cons_of_step hv rest⟩
  | emptyArray => exact fun frames rest => ⟨_, rfl⟩
  | emptyObject => exact fun frames rest => ⟨_, rfl⟩
  | endArray => exact fun v done frames rest => ⟨_, rfl⟩
  | endObject => exact fun v done name frames rest => ⟨_, rfl⟩
  | @array ts more hts _ ih ihmore =>
    intro frames rest
    have hopen : run .pass .value frames (.openArray :: (ts ++ more) ++ rest) =
        run .pass .value (.array [] :: frames) (ts ++ more ++ rest) := by
      rw [List.cons_append, run_cons_of_step rfl, List.append_assoc, hts.run_firstItem]
    rw [hopen]
    exact ih.items ihmore [] frames rest
  | @item ts more _ _ ih ihmore =>
    intro v done frames rest
    rw [List.cons_append, run_cons_of_step rfl]
    exact ih.items ihmore (v :: done) frames rest
  | @object n ts more hn _ _ ih ihmore =>
    intro frames rest
    obtain ⟨name, hname⟩ := exists_text?_of_isName hn
    have hne : n ≠ .closeObject := by
      rintro rfl
      exact hn
    have hstep : Manner.pass.step .firstName frames n = some (.colon [] name, frames) := by
      simp [step, hne, hname]
    rw [List.cons_append, run_cons_of_step rfl, List.cons_append, run_cons_of_step hstep]
    exact ih.members ihmore [] name frames rest
  | @member n ts more hn _ _ ih ihmore =>
    intro v done name frames rest
    obtain ⟨name', hname⟩ := exists_text?_of_isName hn
    have hstep : Manner.pass.step (.name (done.insert name v)) frames n =
        some (.colon (done.insert name v) name', frames) := by
      simp [step, hname]
    rw [List.cons_append, run_cons_of_step rfl, List.cons_append, run_cons_of_step hstep]
    exact ih.members ihmore (done.insert name v) name' frames rest

/-- **Passing over a value takes its tokens and no other.** -/
theorem IsValue.skip_append {ts : List Token} (h : IsValue ts) (rest : List Token) :
    skip (ts ++ rest) = some rest := by
  obtain ⟨v, hv⟩ := h.passes [] rest
  rw [skip, hv, run_after_nil]
  rfl

end Tenancy.Json
