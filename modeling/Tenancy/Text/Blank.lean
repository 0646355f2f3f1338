/-!
# White space, and what is left when it is taken off both ends

A header, a host or a configured value is read without the white space around it. White space is
Unicode's `White_Space` property, twenty-five characters; the zero-width characters (U+200B, U+2060,
U+FEFF) and the Mongolian vowel separator (U+180E) are not among them, so they stay.
-/

set_option autoImplicit false

namespace Tenancy.Text

/-- The characters with the property `White_Space`. -/
def isBlank (c : Char) : Bool :=
  let n := c.toNat
  (9 ≤ n && n ≤ 13) || n == 0x20 || n == 0x85 || n == 0xA0 || n == 0x1680 ||
    (0x2000 ≤ n && n ≤ 0x200A) || n == 0x2028 || n == 0x2029 || n == 0x202F || n == 0x205F ||
    n == 0x3000

/-- The characters without the white space they begin with. -/
def dropBlanks (cs : List Char) : List Char := cs.dropWhile isBlank

/-- The characters without the white space around them. -/
def trimChars (cs : List Char) : List Char := (dropBlanks (dropBlanks cs).reverse).reverse

/-- The text without the white space around it. -/
def trim (s : String) : String := String.ofList (trimChars s.toList)

/-- The trimmed text, if anything is left of it. -/
def nonBlank? (s : String) : Option String :=
  let t := trim s
  if t = "" then none else some t

/-! ## Small facts -/

theorem toList_trim (s : String) : (trim s).toList = trimChars s.toList := by
  simp [trim]

/-- What begins with something else than white space loses nothing in front. -/
theorem dropBlanks_cons_of_not {c : Char} (cs : List Char) (h : isBlank c = false) :
    dropBlanks (c :: cs) = c :: cs := by
  simp [dropBlanks, h]

/-- Text without any white space is its own trimming. -/
theorem trimChars_of_all_not {cs : List Char} (h : ∀ c ∈ cs, isBlank c = false) :
    trimChars cs = cs := by
  have front : ∀ l : List Char, (∀ c ∈ l, isBlank c = false) → dropBlanks l = l := by
    intro l hl
    cases l with
    | nil => rfl
    | cons a r => exact dropBlanks_cons_of_not r (hl a List.mem_cons_self)
  unfold trimChars
  rw [front cs h, front cs.reverse (fun c hc => h c (List.mem_reverse.mp hc)), List.reverse_reverse]

/-- White space around a text is taken off with the white space that the text has. -/
theorem trimChars_padded {front back : List Char} (hfront : ∀ c ∈ front, isBlank c = true)
    (hback : ∀ c ∈ back, isBlank c = true) (cs : List Char) :
    trimChars (front ++ (cs ++ back)) = trimChars cs := by
  have hreverse : ∀ c ∈ back.reverse, isBlank c = true := fun c hc =>
    hback c (List.mem_reverse.mp hc)
  have hnone : (back ++ []).dropWhile isBlank = [] := List.dropWhile_append_of_pos hback
  rw [List.append_nil] at hnone
  unfold trimChars dropBlanks
  rw [List.dropWhile_append_of_pos hfront, List.dropWhile_append]
  split
  · next hempty =>
    rw [List.isEmpty_iff.mp hempty, hnone]
  · rw [List.reverse_append, List.dropWhile_append_of_pos hreverse]

theorem exists_eq_padded (cs : List Char) : ∃ front back : List Char,
    (∀ c ∈ front, isBlank c = true) ∧ (∀ c ∈ back, isBlank c = true) ∧
      cs = front ++ (trimChars cs ++ back) := by
  have hblank : ∀ l : List Char, ∀ c ∈ l.takeWhile isBlank, isBlank c = true := fun l c hc =>
    List.all_eq_true.mp List.all_takeWhile c hc
  refine ⟨cs.takeWhile isBlank, ((dropBlanks cs).reverse.takeWhile isBlank).reverse, hblank cs,
    fun c hc => hblank _ c (List.mem_reverse.mp hc), ?_⟩
  have hback : trimChars cs ++ ((dropBlanks cs).reverse.takeWhile isBlank).reverse =
      dropBlanks cs := by
    unfold trimChars
    rw [← List.reverse_append]
    unfold dropBlanks
    rw [List.takeWhile_append_dropWhile, List.reverse_reverse]
  rw [hback]
  exact List.takeWhile_append_dropWhile.symm

theorem trim_eq_self {s : String} (h : ∀ c ∈ s.toList, isBlank c = false) : trim s = s := by
  rw [trim, trimChars_of_all_not h, String.ofList_toList]

theorem trim_eq_empty {s : String} (h : ∀ c ∈ s.toList, isBlank c = true) : trim s = "" := by
  have hnil : ∀ c ∈ ([] : List Char), isBlank c = true := fun c hc => absurd hc List.not_mem_nil
  have hchars : trimChars (s.toList ++ ([] ++ [])) = [] := trimChars_padded h hnil []
  rw [List.append_nil, List.append_nil] at hchars
  rw [trim, hchars, String.ofList_nil]

theorem trim_padded {front text back : String} (hfront : ∀ c ∈ front.toList, isBlank c = true)
    (hback : ∀ c ∈ back.toList, isBlank c = true) : trim (front ++ (text ++ back)) = trim text := by
  rw [trim, String.toList_append, String.toList_append, trimChars_padded hfront hback, trim]

end Tenancy.Text
