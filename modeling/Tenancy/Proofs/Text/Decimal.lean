import Tenancy.Proofs.Text.LowerCase
import Tenancy.Text.Blank
import Tenancy.Text.Natural

/-!
# Numbers in decimal

The digits of a number are read back as the number. A reader that stops at a bound does not stop at
one that is within it, since what has been read so far never exceeds the whole; and there is no zero
in front that a reader could take for the whole number.
-/

set_option autoImplicit false

namespace Tenancy.Text

theorem isBlank_of_isDigit {c : Char} (h : c.isDigit = true) : isBlank c = false := by
  have := isDigit_iff_toNat.mp h
  simp [isBlank]
  omega

namespace Decimal

/-- The value of the digits, `acc` standing in front of them. -/
def valueFrom (acc : Nat) (cs : List Char) : Nat :=
  cs.foldl (fun acc c => acc * 10 + (c.toNat - 48)) acc

theorem le_valueFrom (acc : Nat) (cs : List Char) : acc ≤ valueFrom acc cs := by
  induction cs generalizing acc with
  | nil => exact Nat.le_refl acc
  | cons c cs ih => exact Nat.le_trans (by omega) (ih (acc * 10 + (c.toNat - 48)))

theorem foldl_toDigits (n : Nat) :
    (Nat.toDigits 10 n).foldl (fun acc c => acc * 10 + (c.toNat - 48)) 0 = n := by
  have h : Nat.ofDigitChars 10 (Nat.toDigits 10 n) 0 = n := Nat.ofDigitChars_ten_toDigits
  rw [Nat.ofDigitChars_eq_foldl] at h
  simpa [Nat.mul_comm] using h

theorem valueFrom_toDigits (n : Nat) : valueFrom 0 (Nat.toDigits 10 n) = n := foldl_toDigits n

theorem isDigit_of_mem_toDigits {n : Nat} {c : Char} (h : c ∈ Nat.toDigits 10 n) :
    c.isDigit = true :=
  Nat.isDigit_of_mem_toDigits (by decide) (by decide) h

/-- Only zero begins with a zero. -/
theorem head?_toDigits_ne {n : Nat} (h : n ≠ 0) : (Nat.toDigits 10 n).head? ≠ some '0' := by
  induction n using Nat.strongRecOn with
  | _ n ih =>
    by_cases hlt : n < 10
    · rw [Nat.toDigits_of_lt_base hlt, List.head?_cons, ne_eq, Option.some.injEq]
      have hall : ∀ n < 10, n ≠ 0 → n.digitChar ≠ '0' := by decide
      exact hall n hlt h
    · rw [Nat.toDigits_of_base_le (by decide) (by omega), List.head?_append,
        Option.or_of_isSome (by simp [Nat.toDigits_ne_nil])]
      exact ih (n / 10) (by omega) (by omega)

theorem exists_toDigits_eq_cons (n : Nat) : ∃ c cs, Nat.toDigits 10 n = c :: cs :=
  List.exists_cons_of_ne_nil Nat.toDigits_ne_nil

/-! ## Numbers in settings -/

theorem digits_eq_ok {bound acc : Nat} {cs : List Char} (hdigits : ∀ c ∈ cs, c.isDigit = true)
    (h : valueFrom acc cs ≤ bound) : Natural.digits bound acc cs = .ok (valueFrom acc cs) := by
  induction cs generalizing acc with
  | nil => rfl
  | cons c cs ih =>
    have hle : acc * 10 + (c.toNat - 48) ≤ bound := Nat.le_trans (le_valueFrom _ cs) h
    rw [Natural.digits, if_pos (hdigits c List.mem_cons_self)]
    dsimp only
    rw [if_pos hle]
    exact ih (fun d hd => hdigits d (List.mem_cons_of_mem _ hd)) h

/-- **A number within the bound is read back from its decimal.** -/
theorem parse_toString {bound n : Nat} (h : n ≤ bound) :
    Natural.parse bound (toString n) = .ok n := by
  have hchars : (toString n).toList = Nat.toDigits 10 n := by
    rw [Nat.toString_eq_repr, Nat.toList_repr]
  obtain ⟨c, cs, hcs⟩ := exists_toDigits_eq_cons n
  have hc : c ≠ '+' := by
    rintro rfl
    exact absurd (isDigit_of_mem_toDigits (n := n) (hcs ▸ List.mem_cons_self)) (by decide)
  have hread : Natural.ofChars bound (c :: cs) = Natural.digits bound 0 (c :: cs) := by
    unfold Natural.ofChars
    split <;> simp_all
  rw [Natural.parse, hchars, hcs, hread, ← hcs,
    digits_eq_ok (fun c => isDigit_of_mem_toDigits) (by rwa [valueFrom_toDigits]),
    valueFrom_toDigits]

end Decimal

end Tenancy.Text
