import Tenancy.Text.LowerCase.Table

/-!
# Lower-casing text

A label is compared and kept in lower case. The mapping is Unicode's full one: a letter's simple
mapping, save that U+0130 becomes two characters and a capital sigma becomes the final sigma where a
word ends, that is, where a letter with case stands before it and none behind it (marks without case
do not count).
-/

set_option autoImplicit false

namespace Tenancy.Text

namespace LowerCase

/-- One character in lower case, wherever it stands. -/
def ofChar (c : Char) : List Char :=
  if c.toNat < 0x80 then [c.toLower]
  else if c.toNat == 0x130 then ['i', Char.ofNat 0x307]
  else match lowered.get? c.toNat with
    | some n => [Char.ofNat n]
    | none => [c]

/-- Whether the first character that is no ignorable mark is a letter with case. -/
def meetsCased (cs : List Char) : Bool :=
  match cs.dropWhile fun c => caseIgnorable.holds c.toNat with
  | c :: _ => cased.holds c.toNat
  | [] => false

/-- Lower case of the rest of a text; `before` holds what was read, the nearest first. -/
def go (before : List Char) : List Char → List Char
  | [] => []
  | c :: cs =>
    let here :=
      if c.toNat == 0x3A3 then
        [Char.ofNat (if meetsCased before && !meetsCased cs then 0x3C2 else 0x3C3)]
      else ofChar c
    here ++ go (c :: before) cs

end LowerCase

/-- The characters in lower case. -/
def lowerChars (cs : List Char) : List Char := LowerCase.go [] cs

/-- The text in lower case. -/
def lower (s : String) : String := String.ofList (lowerChars s.toList)

/-! ## Small facts -/

/-- ASCII text is lower-cased letter by letter. -/
theorem lowerChars_of_ascii {cs : List Char} (h : ∀ c ∈ cs, c.toNat < 0x80) :
    lowerChars cs = cs.map Char.toLower := by
  have step : ∀ (l before : List Char), (∀ c ∈ l, c.toNat < 0x80) →
      LowerCase.go before l = l.map Char.toLower := by
    intro l
    induction l with
    | nil => intro before _; rfl
    | cons c r ih =>
      intro before hl
      have hc : c.toNat < 0x80 := hl c List.mem_cons_self
      have hs : (c.toNat == 0x3A3) = false := by
        simp only [beq_eq_false_iff_ne]; omega
      simp only [LowerCase.go, hs, LowerCase.ofChar, if_pos hc]
      simp [ih (c :: before) fun d hd => hl d (List.mem_cons_of_mem _ hd)]
  exact step cs [] h

/-- Setting ASCII letters alone in lower case, as settings' flags are read. -/
def lowerAscii (s : String) : String := String.ofList (s.toList.map Char.toLower)

end Tenancy.Text
