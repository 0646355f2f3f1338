import Tenancy.Settings

/-!
# What settings that can be used are like

The check of settings stops at the first setting that cannot be used, so it passes exactly if each of
them can (`check_eq_ok_iff`). Whatever relies on checked settings asks for one of the conditions by
name and does not run the check.
-/

set_option autoImplicit false

namespace Tenancy

/-! ## Checks one after the other -/

section Checks

variable {ε : Type} {c : Prop} [Decidable c] {e : ε}

/-- One check with everything behind it passes if it does not fail and the rest passes. -/
theorem failIf_eq_ok_iff {rest : Unit → Except ε Unit} :
    (if c then Except.error e >>= rest else rest ()) = .ok () ↔ ¬c ∧ rest () = .ok () := by
  by_cases h : c
  · simp [h, bind, Except.bind]
  · simp [h]

theorem lastFailIf_eq_ok_iff :
    (if c then Except.error e else pure ()) = .ok () ↔ ¬c := by
  by_cases h : c
  · simp [h]
  · simp [h, pure, Except.pure]

/-- What fails is one of the checks. -/
theorem eq_or_of_failIf_eq_error {rest : Unit → Except ε Unit} {e' : ε}
    (h : (if c then Except.error e >>= rest else rest ()) = .error e') :
    e' = e ∨ rest () = .error e' := by
  by_cases hc : c
  · rw [if_pos hc] at h
    exact .inl (Except.error.inj h).symm
  · rw [if_neg hc] at h
    exact .inr h

theorem eq_of_lastFailIf_eq_error {e' : ε}
    (h : (if c then Except.error e else pure () : Except ε Unit) = .error e') : e' = e := by
  by_cases hc : c
  · rw [if_pos hc] at h
    exact (Except.error.inj h).symm
  · rw [if_neg hc] at h
    cases h

end Checks

namespace Settings

/-- **Settings can be used exactly if every one of them can.** -/
theorem check_eq_ok_iff {s : Settings} :
    s.check = .ok () ↔
      isHeaderName s.tenantHeader = true ∧ isHeaderName s.impersonationHeader = true ∧
        (∀ t, s.defaultTenant = some t → TenantId.isValidText t = true) ∧ s.memoCapacity ≠ 0 ∧
          TenantId.isValidText s.fallbackSchema = true := by
  unfold check refuse
  cases s.defaultTenant with
  | none =>
    simp only [failIf_eq_ok_iff, lastFailIf_eq_ok_iff]
    simp
  | some t =>
    simp only [failIf_eq_ok_iff, lastFailIf_eq_ok_iff]
    simp

/-- The check tells a setting by its key, and what is wrong with it. -/
theorem exists_invalid_of_check {s : Settings} {e : SettingsError} (h : s.check = .error e) :
    ∃ key reason, e = .invalid key reason := by
  unfold check refuse at h
  cases hdefault : s.defaultTenant with
  | none =>
    rw [hdefault] at h
    rcases eq_or_of_failIf_eq_error h with rfl | h
    · exact ⟨_, _, rfl⟩
    rcases eq_or_of_failIf_eq_error h with rfl | h
    · exact ⟨_, _, rfl⟩
    rcases eq_or_of_failIf_eq_error h with rfl | h
    · exact ⟨_, _, rfl⟩
    · exact ⟨_, _, eq_of_lastFailIf_eq_error h⟩
  | some t =>
    rw [hdefault] at h
    rcases eq_or_of_failIf_eq_error h with rfl | h
    · exact ⟨_, _, rfl⟩
    rcases eq_or_of_failIf_eq_error h with rfl | h
    · exact ⟨_, _, rfl⟩
    rcases eq_or_of_failIf_eq_error h with rfl | h
    · exact ⟨_, _, rfl⟩
    rcases eq_or_of_failIf_eq_error h with rfl | h
    · exact ⟨_, _, rfl⟩
    · exact ⟨_, _, eq_of_lastFailIf_eq_error h⟩

end Settings

end Tenancy
