import Tenancy.Text.Split

/-!
# Cutting what was joined

Text that was put together with a separator is cut again where it was put together, if no part holds
the separator: into pieces, at the first separator, or at the last one.
-/

set_option autoImplicit false

namespace Tenancy.Text

theorem pieces_append_cons {sep : Char} {p : List Char} (hp : sep ∉ p) (cs : List Char) :
    pieces sep (p ++ sep :: cs) = p :: pieces sep cs := by
  induction p with
  | nil => simp [pieces]
  | cons c p ih =>
    have hc : ¬c = sep := fun e => hp (e ▸ List.mem_cons_self)
    have ih := ih fun h => hp (List.mem_cons_of_mem _ h)
    simp [pieces, hc, ih]

theorem pieces_of_not_mem {sep : Char} {p : List Char} (hp : sep ∉ p) : pieces sep p = [p] := by
  induction p with
  | nil => rfl
  | cons c p ih =>
    have hc : ¬c = sep := fun e => hp (e ▸ List.mem_cons_self)
    have ih := ih fun h => hp (List.mem_cons_of_mem _ h)
    simp [pieces, hc, ih]

/-- What stands on both sides of a separator is cut independently. -/
theorem pieces_append_sep (sep : Char) (a b : List Char) :
    pieces sep (a ++ sep :: b) = pieces sep a ++ pieces sep b := by
  induction a with
  | nil => simp [pieces]
  | cons c a ih =>
    rw [List.cons_append, pieces, pieces, ih]
    split
    · rfl
    · cases hp : pieces sep a with
      | nil => exact absurd hp (pieces_ne_nil sep a)
      | cons p ps => rfl

/-- The first piece is what stands in front of all separators. -/
theorem exists_pieces_eq_upTo_cons (sep : Char) (cs : List Char) :
    ∃ ps, pieces sep cs = upTo sep cs :: ps := by
  induction cs with
  | nil => exact ⟨[], rfl⟩
  | cons c cs ih =>
    obtain ⟨ps, hps⟩ := ih
    by_cases hc : c = sep
    · exact ⟨pieces sep cs, by simp [pieces, upTo, hc]⟩
    · exact ⟨ps, by simp [pieces, upTo, hc, hps]⟩

/-- What stands in front of all separators does not hang on what is behind one. -/
theorem upTo_append_sep (sep : Char) (a b : List Char) : upTo sep (a ++ sep :: b) = upTo sep a := by
  induction a with
  | nil => simp [upTo]
  | cons c a ih =>
    rw [upTo, upTo] at ih
    simp only [upTo, List.cons_append, List.takeWhile_cons, ih]

/-- A mapping that tells the separator from everything else commutes with cutting. -/
theorem pieces_map {sep : Char} {f : Char → Char} (hf : ∀ c, f c = sep ↔ c = sep)
    (cs : List Char) : pieces sep (cs.map f) = (pieces sep cs).map (List.map f) := by
  induction cs with
  | nil => rfl
  | cons c cs ih =>
    rw [List.map_cons, pieces, pieces, ih]
    by_cases hc : c = sep
    · rw [if_pos hc, if_pos ((hf c).mpr hc)]
      rfl
    · rw [if_neg hc, if_neg fun h => hc ((hf c).mp h)]
      cases hp : pieces sep cs with
      | nil => exact absurd hp (pieces_ne_nil sep cs)
      | cons p ps => rfl

theorem not_mem_upTo (sep : Char) (cs : List Char) : sep ∉ upTo sep cs := by
  intro hmem
  have hall := List.all_eq_true.mp (List.all_takeWhile (l := cs)) sep hmem
  simp at hall

theorem mem_of_mem_upTo {sep c : Char} {cs : List Char} (h : c ∈ upTo sep cs) : c ∈ cs :=
  (List.takeWhile_sublist _).subset h

/-- Pieces without the separator are cut where they were joined. -/
theorem pieces_intercalate {sep : Char} {ps : List (List Char)} (hne : ps ≠ [])
    (hps : ∀ p ∈ ps, sep ∉ p) : pieces sep ([sep].intercalate ps) = ps := by
  induction ps with
  | nil => exact absurd rfl hne
  | cons p ps ih =>
    have hp := hps p List.mem_cons_self
    cases ps with
    | nil => simpa [List.intercalate] using pieces_of_not_mem hp
    | cons q qs =>
      have ih := ih (List.cons_ne_nil q qs) fun r hr => hps r (List.mem_cons_of_mem _ hr)
      rw [List.intercalate_cons_cons, List.append_assoc, List.singleton_append,
        pieces_append_cons hp, ih]

theorem mem_intercalate {α : Type} {sep c : α} {ps : List (List α)} :
    c ∈ [sep].intercalate ps ↔ (∃ p ∈ ps, c ∈ p) ∨ c = sep ∧ 2 ≤ ps.length := by
  induction ps with
  | nil => simp
  | cons p ps ih =>
    cases ps with
    | nil => simp
    | cons q qs =>
      rw [List.intercalate_cons_cons, List.append_assoc, List.singleton_append, List.mem_append,
        List.mem_cons, ih]
      simp
      grind

theorem cutFirst_append_cons {sep : Char} {a : List Char} (ha : sep ∉ a) (b : List Char) :
    cutFirst sep (a ++ sep :: b) = some (a, b) := by
  induction a with
  | nil => simp [cutFirst]
  | cons c a ih =>
    have hc : ¬c = sep := fun e => ha (e ▸ List.mem_cons_self)
    have ih := ih fun h => ha (List.mem_cons_of_mem _ h)
    simp [cutFirst, hc, ih]

theorem cutLast_append_cons {sep : Char} (a : List Char) {b : List Char} (hb : sep ∉ b) :
    cutLast sep (a ++ sep :: b) = some (a, b) := by
  induction a with
  | nil => simp [cutLast, cutLast_eq_none_iff.mpr hb]
  | cons c a ih => simp [cutLast, ih]

/-- What a first cut leaves in front, or the whole text: a beginning of it without the separator. -/
theorem cutFirst_front_spec (sep : Char) (cs : List Char) :
    sep ∉ ((cutFirst sep cs).map Prod.fst).getD cs ∧
      ((cutFirst sep cs).map Prod.fst).getD cs <+: cs := by
  cases hcut : cutFirst sep cs with
  | none => exact ⟨cutFirst_eq_none_iff.mp hcut, List.prefix_rfl⟩
  | some cut =>
    obtain ⟨a, b⟩ := cut
    obtain ⟨heq, hnew⟩ := cutFirst_eq_some hcut
    exact ⟨hnew, ⟨sep :: b, heq.symm⟩⟩

end Tenancy.Text
