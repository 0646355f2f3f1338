import Mathlib.Data.List.Nodup

/-!
# Lists in which no key occurs twice

In such a list an element is what a look-up of its key finds, so a look-up does not depend on the
order of the list.
-/

set_option autoImplicit false

namespace Tenancy

theorem find?_eq_some_of_nodup {α β : Type} [DecidableEq β] {key : α → β} {x : α} :
    ∀ {l : List α}, (l.map key).Nodup → x ∈ l → l.find? (fun y => key y == key x) = some x
  | [], _, hx => absurd hx List.not_mem_nil
  | y :: l, hn, hx => by
    obtain ⟨hy, hl⟩ := List.nodup_cons.mp hn
    rcases List.mem_cons.mp hx with rfl | hx
    · exact List.find?_cons_of_pos (beq_self_eq_true _)
    · have hne : key y ≠ key x := fun h => hy (h ▸ List.mem_map_of_mem hx)
      rw [List.find?_cons_of_neg (by simpa using hne)]
      exact find?_eq_some_of_nodup hl hx

theorem find?_eq_of_perm {α β : Type} [DecidableEq β] {key : α → β} {l l' : List α}
    (h : l.Perm l') (hn : (l.map key).Nodup) (k : β) :
    l.find? (fun y => key y == k) = l'.find? (fun y => key y == k) := by
  have hn' : (l'.map key).Nodup := (h.map key).nodup_iff.mp hn
  cases hfind : l.find? (fun y => key y == k) with
  | none =>
    refine (List.find?_eq_none.mpr fun y hy => ?_).symm
    exact List.find?_eq_none.mp hfind y (h.mem_iff.mpr hy)
  | some x =>
    have hx : key x = k := by simpa using List.find?_some hfind
    rw [← hx]
    exact (find?_eq_some_of_nodup hn' (h.mem_iff.mp (List.mem_of_find?_eq_some hfind))).symm

theorem nodup_append_fresh {α β : Type} {key : α → β} {l : List α} {x : α}
    (hn : (l.map key).Nodup) (hfresh : ∀ y ∈ l, key y ≠ key x) : ((l ++ [x]).map key).Nodup := by
  rw [List.map_append, List.nodup_append]
  refine ⟨hn, List.nodup_singleton _, ?_⟩
  intro a ha b hb
  obtain ⟨y, hy, rfl⟩ := List.mem_map.mp ha
  rw [List.map_singleton, List.mem_singleton] at hb
  rw [hb]
  exact hfresh y hy

end Tenancy
