/-!
# Cutting text at a separator

Host names are cut at dots, queries at ampersands, pairs at the first equals sign and ports at the
last colon. `pieces` never answers the empty list: text without the separator is one piece, and
`intercalate_pieces` says that nothing else is lost.
-/

set_option autoImplicit false

namespace Tenancy.Text

/-- The pieces between the separators, empty ones included. -/
def pieces (sep : Char) : List Char → List (List Char)
  | [] => [[]]
  | c :: cs =>
    if c = sep then [] :: pieces sep cs
    else match pieces sep cs with
      | [] => [[c]]
      | p :: ps => (c :: p) :: ps

/-- What stands before and after the first separator, if there is one. -/
def cutFirst (sep : Char) : List Char → Option (List Char × List Char)
  | [] => none
  | c :: cs => if c = sep then some ([], cs) else (cutFirst sep cs).map fun (a, b) => (c :: a, b)

/-- What stands before and after the last separator, if there is one. -/
def cutLast (sep : Char) : List Char → Option (List Char × List Char)
  | [] => none
  | c :: cs =>
    match cutLast sep cs with
    | some (a, b) => some (c :: a, b)
    | none => if c = sep then some ([], cs) else none

/-- What stands before the first separator, or the whole text. -/
def upTo (sep : Char) (cs : List Char) : List Char := cs.takeWhile (· ≠ sep)

/-! ## Small facts -/

theorem pieces_ne_nil (sep : Char) (cs : List Char) : pieces sep cs ≠ [] := by
  cases cs with
  | nil => simp [pieces]
  | cons c r =>
    unfold pieces
    split
    · simp
    · split <;> simp

/-- Putting the separators back gives the text again. -/
theorem intercalate_pieces (sep : Char) (cs : List Char) :
    [sep].intercalate (pieces sep cs) = cs := by
  induction cs with
  | nil => simp [pieces, List.intercalate]
  | cons c r ih =>
    by_cases h : c = sep
    · subst h
      cases hp : pieces c r with
      | nil => exact absurd hp (pieces_ne_nil c r)
      | cons p ps =>
        rw [hp] at ih
        simp [pieces, hp, List.intercalate] at ih ⊢
        exact ih
    · cases hp : pieces sep r with
      | nil => exact absurd hp (pieces_ne_nil sep r)
      | cons p ps =>
        rw [hp] at ih
        cases ps with
        | nil => simp [pieces, hp, h, List.intercalate] at ih ⊢; exact ih
        | cons q qs => simp [pieces, hp, h, List.intercalate] at ih ⊢; exact ih

/-- No piece holds the separator. -/
theorem not_mem_of_mem_pieces {sep : Char} {cs p : List Char} (h : p ∈ pieces sep cs) :
    sep ∉ p := by
  induction cs generalizing p with
  | nil => simp [pieces] at h; simp [h]
  | cons c r ih =>
    unfold pieces at h
    split at h
    · rcases List.mem_cons.mp h with rfl | h
      · simp
      · exact ih h
    · next hc =>
      split at h
      · next hp => exact absurd hp (pieces_ne_nil sep r)
      · next q qs hp =>
        rcases List.mem_cons.mp h with rfl | h
        · have := ih (p := q) (by rw [hp]; exact List.mem_cons_self)
          simp only [List.mem_cons, not_or]
          exact ⟨fun e => hc e.symm, this⟩
        · exact ih (by rw [hp]; exact List.mem_cons_of_mem _ h)

/-- A first cut is a cut: the two parts and the separator are the text, and the separator is new. -/
theorem cutFirst_eq_some {sep : Char} {cs a b : List Char} (h : cutFirst sep cs = some (a, b)) :
    cs = a ++ sep :: b ∧ sep ∉ a := by
  induction cs generalizing a b with
  | nil => simp [cutFirst] at h
  | cons c r ih =>
    unfold cutFirst at h
    split at h
    · next hc => cases h; simp [hc]
    · next hc =>
      cases hr : cutFirst sep r with
      | none => simp [hr] at h
      | some q =>
        obtain ⟨x, y⟩ := q
        simp [hr] at h
        obtain ⟨rfl, rfl⟩ := h
        obtain ⟨h1, h2⟩ := ih hr
        exact ⟨by simp [h1], by simp only [List.mem_cons, not_or]; exact ⟨fun e => hc e.symm, h2⟩⟩

theorem cutFirst_eq_none_iff {sep : Char} {cs : List Char} :
    cutFirst sep cs = none ↔ sep ∉ cs := by
  induction cs with
  | nil => simp [cutFirst]
  | cons c r ih =>
    by_cases h : c = sep
    · simp [cutFirst, h]
    · have h' : ¬sep = c := fun e => h e.symm
      simp only [cutFirst, h, if_false, Option.map_eq_none_iff, List.mem_cons, h', false_or]
      exact ih

theorem cutLast_eq_none_iff {sep : Char} {cs : List Char} :
    cutLast sep cs = none ↔ sep ∉ cs := by
  induction cs with
  | nil => simp [cutLast]
  | cons c r ih =>
    unfold cutLast
    cases hr : cutLast sep r with
    | none =>
      by_cases h : c = sep
      · simp [h]
      · have h' : ¬sep = c := fun e => h e.symm
        simp [h, h', ih.mp hr]
    | some q =>
      have : sep ∈ r := Classical.byContradiction fun hn => by simp [ih.mpr hn] at hr
      simp [this]

/-- A last cut is a cut, and no separator stands behind it. -/
theorem cutLast_eq_some {sep : Char} {cs a b : List Char} (h : cutLast sep cs = some (a, b)) :
    cs = a ++ sep :: b ∧ sep ∉ b := by
  induction cs generalizing a b with
  | nil => simp [cutLast] at h
  | cons c r ih =>
    unfold cutLast at h
    cases hr : cutLast sep r with
    | none =>
      rw [hr] at h
      simp only at h
      split at h
      · next hc => cases h; exact ⟨by simp [hc], cutLast_eq_none_iff.mp hr⟩
      · cases h
    | some q =>
      obtain ⟨x, y⟩ := q
      rw [hr] at h
      cases h
      obtain ⟨h1, h2⟩ := ih hr
      exact ⟨by simp [h1], h2⟩

end Tenancy.Text
