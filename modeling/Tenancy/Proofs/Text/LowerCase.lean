import Tenancy.Proofs.Text.Percent
import Tenancy.TenantId
import Tenancy.Text.LowerCase

/-!
# Text in lower case

Lower-casing leaves no capital letter of ASCII behind, whatever it is given: no run of the table
leads to one, and the two mappings that are no runs do not either. So text that was put in lower case
and turned out to be a valid id is its own lower case (`lower_eq_self`), and comparing it with words
in lower case is comparing it in every spelling. What does not tell ASCII letters from their capitals
does not tell any character from its lower case (`eq_toLower_of_forall_ascii`).
-/

set_option autoImplicit false

namespace Tenancy.Text

theorem Runs.exists_of_get? {runs : Runs} {n m : Nat} (h : runs.get? n = some m) :
    ∃ run ∈ runs, run.2.2.2 ≤ m := by
  induction runs with
  | nil => exact absurd h (by simp [Runs.get?])
  | cons run runs ih =>
    obtain ⟨first, last, step, image⟩ := run
    unfold Runs.get? at h
    split at h
    · exact absurd h (by simp)
    · split at h
      · refine ⟨_, List.mem_cons_self, ?_⟩
        rw [← Option.some.inj h]
        exact Nat.le_add_right _ _
      · obtain ⟨run, hrun, hle⟩ := ih h
        exact ⟨run, List.mem_cons_of_mem _ hrun, hle⟩

theorem isUpper_iff_toNat {c : Char} : c.isUpper = true ↔ 65 ≤ c.toNat ∧ c.toNat ≤ 90 := by
  show decide (c.val ≥ 'A'.val ∧ c.val ≤ 'Z'.val) = true ↔ _
  simp [UInt32.le_iff_toNat_le, ← Char.toNat_val]

theorem isDigit_iff_toNat {c : Char} : c.isDigit = true ↔ 48 ≤ c.toNat ∧ c.toNat ≤ 57 := by
  simp [Char.isDigit, UInt32.le_iff_toNat_le, ← Char.toNat_val]

/-- The character of a code point beyond the capital letters is none of them. -/
theorem not_isUpper_ofNat {n : Nat} (h : 90 < n) : (Char.ofNat n).isUpper = false := by
  by_cases hvalid : n.isValidChar
  · have hn : (Char.ofNat n).toNat = n := by
      rw [Char.ofNat, dif_pos hvalid]
      rfl
    rw [Bool.eq_false_iff, ne_eq, isUpper_iff_toNat, hn]
    omega
  · rw [Char.ofNat, dif_neg hvalid]
    rfl

namespace LowerCase

/-- No run of the table leads to a capital letter. -/
theorem image_of_mem_lowered : ∀ run ∈ lowered, 90 < run.2.2.2 := by
  decide +kernel

theorem not_isUpper_of_mem_ofChar {c d : Char} (h : d ∈ ofChar c) : d.isUpper = false := by
  unfold ofChar at h
  split at h
  · next hc =>
    rw [List.mem_singleton.mp h]
    exact of_forall_ascii (p := fun c => c.toLower.isUpper = false) c hc (by decide)
  · next hc =>
    split at h
    · simp only [List.mem_cons, List.not_mem_nil, or_false] at h
      rcases h with rfl | rfl
      · decide
      · exact not_isUpper_ofNat (by decide)
    · split at h
      · next n hn =>
        rw [List.mem_singleton.mp h]
        obtain ⟨run, hrun, hle⟩ := Runs.exists_of_get? hn
        exact not_isUpper_ofNat (Nat.lt_of_lt_of_le (image_of_mem_lowered run hrun) hle)
      · rw [List.mem_singleton.mp h, Bool.eq_false_iff, ne_eq, isUpper_iff_toNat]
        omega

theorem not_isUpper_of_mem_go {before cs : List Char} {d : Char} (h : d ∈ go before cs) :
    d.isUpper = false := by
  -- what was read before only settles which sigma is written, so it is general
  induction cs generalizing before with
  | nil => exact absurd h List.not_mem_nil
  | cons c cs ih =>
    unfold go at h
    rcases List.mem_append.mp h with h | h
    · split at h
      · rw [List.mem_singleton.mp h]
        refine not_isUpper_ofNat ?_
        split <;> decide
      · exact not_isUpper_of_mem_ofChar h
    · exact ih h

end LowerCase

/-- **Lower-casing leaves no capital letter of ASCII.** -/
theorem not_isUpper_of_mem_lowerChars {cs : List Char} {d : Char} (h : d ∈ lowerChars cs) :
    d.isUpper = false :=
  LowerCase.not_isUpper_of_mem_go h

/-- The characters of valid ids are ASCII. -/
theorem toNat_lt_of_isIdChar {c : Char} (h : TenantId.isIdChar c = true) : c.toNat < 0x80 := by
  have hupper : c.isUpper = true → c.toNat ≤ 0x5A := fun h => (isUpper_iff_toNat.mp h).2
  have hlower : c.isLower = true → c.toNat ≤ 0x7A := fun h =>
    of_decide_eq_true (Bool.and_eq_true_iff.mp h).2
  have hdigit : c.isDigit = true → c.toNat ≤ 0x39 := fun h =>
    of_decide_eq_true (Bool.and_eq_true_iff.mp h).2
  have halpha : c.isAlpha = (c.isUpper || c.isLower) := rfl
  simp only [TenantId.isIdChar, Char.isAlphanum, halpha, Bool.or_eq_true, beq_iff_eq] at h
  rcases h with (((h | h) | h) | rfl) | rfl
  · exact Nat.lt_of_le_of_lt (hupper h) (by decide)
  · exact Nat.lt_of_le_of_lt (hlower h) (by decide)
  · exact Nat.lt_of_le_of_lt (hdigit h) (by decide)
  · decide
  · decide

theorem toLower_of_not_isUpper {c : Char} (h : c.isUpper = false) : c.toLower = c := by
  unfold Char.toLower
  refine dif_neg fun hc => ?_
  have hupper : c.isUpper = true := by
    show decide (c.val ≥ 'A'.val ∧ c.val ≤ 'Z'.val) = true
    simpa using hc
  exact absurd hupper (by simp [h])

/-- ASCII text without capital letters is its own lower case. -/
theorem lowerChars_eq_self {cs : List Char} (hascii : ∀ c ∈ cs, c.toNat < 0x80)
    (h : ∀ c ∈ cs, c.isUpper = false) : lowerChars cs = cs := by
  rw [lowerChars_of_ascii hascii,
    List.map_congr_left fun c hc => toLower_of_not_isUpper (h c hc), List.map_id']

/-- **A valid id without capital letters is its own lower case.** -/
theorem lower_eq_self {s : String} (hvalid : TenantId.isValidText s = true)
    (h : ∀ c ∈ s.toList, c.isUpper = false) : lower s = s := by
  obtain ⟨-, -, hid⟩ := TenantId.isValidText_iff.mp hvalid
  have hascii : ∀ c ∈ s.toList, c.toNat < 0x80 := fun c hc => toNat_lt_of_isIdChar (hid c hc)
  rw [lower, lowerChars_eq_self hascii h, String.ofList_toList]

/-! ## Letters in any case -/

/-- Text that differs in the case of ASCII letters only. -/
def AlikeInCase (cs cs' : List Char) : Prop := cs.map Char.toLower = cs'.map Char.toLower

instance (cs cs' : List Char) : Decidable (AlikeInCase cs cs') :=
  inferInstanceAs (Decidable (cs.map Char.toLower = cs'.map Char.toLower))

/-- Whatever does not tell ASCII letters from their capitals does not tell a character from its lower
case. -/
theorem eq_toLower_of_forall_ascii {α : Type} {f : Char → α}
    (h : ∀ n < 0x80, f (Char.ofNat n).toLower = f (Char.ofNat n)) (c : Char) :
    f c.toLower = f c := by
  by_cases hc : c.toNat < 0x80
  · exact of_forall_ascii (p := fun c => f c.toLower = f c) c hc h
  · have hupper : c.isUpper = false := by
      rw [Bool.eq_false_iff, ne_eq, isUpper_iff_toNat]
      omega
    rw [toLower_of_not_isUpper hupper]

theorem toLower_toLower (c : Char) : c.toLower.toLower = c.toLower :=
  eq_toLower_of_forall_ascii (by decide) c

theorem map_toLower_map_toLower (cs : List Char) :
    (cs.map Char.toLower).map Char.toLower = cs.map Char.toLower := by
  rw [List.map_map]
  exact List.map_congr_left fun c _ => toLower_toLower c

end Tenancy.Text
