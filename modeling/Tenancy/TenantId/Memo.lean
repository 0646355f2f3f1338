import Tenancy.Json.Basic
import Tenancy.TenantId

/-!
# Remembered answers about ids

Checking an id is remembered. A memo holds at most `capacity` answers, the one used last in front,
and forgets from the back. `find?` and `remember` are its two steps, and `check` is a look-up that
falls back to the rule. Answers are only ever taken from the rule, so a memo in which every answer
is right (`Sound`) stays so, whatever is forgotten and whoever else uses it in between.
-/

set_option autoImplicit false

namespace Tenancy.TenantId

/-- Answers by candidate, the one used last in front. -/
structure Memo where
  capacity : Nat
  answers : List (String × Bool)
  deriving Repr

namespace Memo

/-- A memo that knows nothing. -/
def empty (capacity : Nat) : Memo := ⟨capacity, []⟩

/-- The number of answers that are remembered where settings give no other. -/
def defaultCapacity : Nat := 100

instance : Inhabited Memo := ⟨empty defaultCapacity⟩

/-- The answer that is remembered for a candidate. -/
def find? (memo : Memo) (candidate : String) : Option Bool := memo.answers.lookup candidate

/-- The memo without what it knows about a candidate. -/
def forget (memo : Memo) (candidate : String) : Memo :=
  { memo with answers := memo.answers.filter fun p => p.1 ≠ candidate }

/-- The memo with an answer in front, within its capacity. -/
def remember (memo : Memo) (candidate : String) (answer : Bool) : Memo :=
  { memo with
    answers := ((candidate, answer) :: (memo.forget candidate).answers).take memo.capacity }

/-- The answer for a candidate, remembered or found by the rule, and the memo after it. -/
def check (memo : Memo) (candidate : String) : Bool × Memo :=
  match memo.find? candidate with
  | some answer => (answer, memo.remember candidate answer)
  | none =>
    let answer := isValidText candidate
    (answer, memo.remember candidate answer)

/-- The answer for any value: what is no text is no id, and the memo is not asked about it. -/
def checkValue (memo : Memo) (candidate : Json) : Bool × Memo :=
  match candidate.asText? with
  | some text => memo.check text
  | none => (false, memo)

/-- How many answers are remembered. -/
def size (memo : Memo) : Nat := memo.answers.length

/-! ## Right answers -/

/-- Every remembered answer is the rule's. -/
def Sound (memo : Memo) : Prop := ∀ p ∈ memo.answers, p.2 = isValidText p.1

theorem sound_empty (capacity : Nat) : Sound (empty capacity) := by
  intro p hp; simp [empty] at hp

theorem Sound.remember {memo : Memo} (h : Sound memo) (candidate : String) :
    Sound (memo.remember candidate (isValidText candidate)) := by
  intro p hp
  have hp' := List.mem_of_mem_take hp
  rcases List.mem_cons.mp hp' with rfl | hp'
  · rfl
  · exact h p (List.mem_filter.mp hp').1

end Memo

end Tenancy.TenantId
