import Tenancy.Proofs.Text.Form
import Tenancy.Text.Blank

/-!
# Components are safe in a query

The two readings of a query disagree about plus signs: forms take them for spaces, and the plain
reading takes them for themselves. So a component that is to be read by both may hold none. It is
written in two steps: `serialized` writes it as forms are written, a plus sign for a space, and
`plusEscaped` puts an encoded space for each plus sign. That loses nothing only because the first
step has already written the plus signs that were there as triples, and no triple holds one; then
the two steps are one, `encodeComponent` (`encodeComponent_eq`).

What comes out is `Written`: plain characters and whole triples, nothing that ends a value, a
parameter or the query.
-/

set_option autoImplicit false

namespace Tenancy.Text

theorem octets_toList (s : String) : octets s.toList = s.toUTF8.data.toList := by
  obtain ⟨cs, rfl⟩ : ∃ cs, s = String.ofList cs := ⟨s.toList, String.ofList_toList.symm⟩
  rw [String.toList_ofList]
  simp [octets, String.toUTF8, String.ofList, List.utf8Encode]

namespace Form

/-! ## Two steps -/

/-- An octet as forms are written: a space is a plus sign. -/
def formPiece (b : UInt8) : List Char :=
  if isPlain b then [Char.ofNat b.toNat]
  else if b = 0x20 then ['+']
  else Percent.triple b

def serialized (bs : List UInt8) : List Char := bs.flatMap formPiece

/-- The text with an encoded space for each plus sign. -/
def plusEscaped (cs : List Char) : List Char :=
  cs.flatMap fun c => if c = '+' then "%20".toList else [c]

theorem plusEscaped_of_not_mem {cs : List Char} (h : '+' ∉ cs) : plusEscaped cs = cs := by
  induction cs with
  | nil => rfl
  | cons c cs ih =>
    obtain ⟨hc, hcs⟩ := List.ne_and_not_mem_of_not_mem_cons h
    rw [plusEscaped, List.flatMap_cons, if_neg hc.symm, ← plusEscaped, ih hcs]
    rfl

theorem plus_not_mem_triple (b : UInt8) : '+' ∉ Percent.triple b := fun h =>
  absurd (Percent.mem_tripleChars_of_mem_triple h) (by decide)

/-- What forms write for an octet has a plus sign for a space only. -/
theorem plusEscaped_formPiece (b : UInt8) :
    plusEscaped (formPiece b) = if isPlain b then [Char.ofNat b.toNat] else Percent.triple b := by
  unfold formPiece
  by_cases hplain : isPlain b = true
  · rw [if_pos hplain, if_pos hplain]
    refine plusEscaped_of_not_mem fun hmem => ?_
    have hb : b.toNat = 0x2B := by
      rw [← toNat_ofNat_octet, ← List.mem_singleton.mp hmem]
      rfl
    obtain rfl : b = 0x2B := UInt8.toNat_inj.mp hb
    exact absurd hplain (by decide)
  · rw [if_neg hplain, if_neg hplain]
    by_cases hspace : b = 0x20
    · rw [if_pos hspace, hspace]
      decide
    · rw [if_neg hspace]
      exact plusEscaped_of_not_mem (plus_not_mem_triple b)

/-- **A component is written as forms are, with encoded spaces in place of plus signs.** -/
theorem encodeComponent_eq (cs : List Char) :
    encodeComponent cs = plusEscaped (serialized (octets cs)) := by
  have hpieces : plusEscaped (serialized (octets cs)) =
      (octets cs).flatMap fun b => plusEscaped (formPiece b) := List.flatMap_assoc
  rw [hpieces]
  simp only [plusEscaped_formPiece]
  rfl

/-! ## What is written -/

/-- The characters that stand for themselves: letters, digits, `*`, `-`, `.` and `_`. -/
def isPlainChar (c : Char) : Bool := c.isAlphanum || "*-._".toList.contains c

def isHexDigit (c : Char) : Bool := "0123456789ABCDEF".toList.contains c

/-- Plain characters, and percent signs with two hexadecimal digits behind them. -/
inductive Written : List Char → Prop where
  | nil : Written []
  | plain {c : Char} {cs : List Char} (hc : isPlainChar c = true) (h : Written cs) :
    Written (c :: cs)
  | triple {x y : Char} {cs : List Char} (hx : isHexDigit x = true) (hy : isHexDigit y = true)
    (h : Written cs) : Written ('%' :: x :: y :: cs)

theorem isPlainChar_of_isPlain {b : UInt8} (h : isPlain b = true) :
    isPlainChar (Char.ofNat b.toNat) = true := by
  have hascii : ∀ n < 0x80, isPlain (UInt8.ofNat n) = true → isPlainChar (Char.ofNat n) = true := by
    decide
  exact hascii b.toNat (toNat_lt_of_isPlain h) (by rwa [UInt8.ofNat_toNat])

theorem isHexDigit_digitChar {n : Nat} (h : n < 16) : isHexDigit (Percent.digitChar n) = true := by
  revert n
  decide

theorem written_encodeComponent (cs : List Char) : Written (encodeComponent cs) := by
  unfold encodeComponent Percent.encode
  induction octets cs with
  | nil => exact .nil
  | cons b bs ih =>
    have hb : b.toNat < 256 := UInt8.toNat_lt b
    rw [Percent.encodeOctets, List.flatMap_cons, ← Percent.encodeOctets]
    by_cases hplain : isPlain b = true
    · rw [if_pos hplain]
      exact .plain (isPlainChar_of_isPlain hplain) ih
    · rw [if_neg hplain]
      exact .triple (isHexDigit_digitChar (by omega)) (isHexDigit_digitChar (by omega)) ih

/-- What ends a value, a parameter or a query, and what is a blank or is read as one. -/
def isDelimiter (c : Char) : Bool := "&=#+".toList.contains c || isBlank c

theorem not_isDelimiter_of_mem_encodeComponent {cs : List Char} {c : Char}
    (h : c ∈ encodeComponent cs) : isDelimiter c = false := by
  have hkept : Percent.Kept isWritten c := kept_of_mem_encodeComponent h
  have hascii : ∀ n < 0x80, Percent.Kept isWritten (Char.ofNat n) →
      isDelimiter (Char.ofNat n) = false := by decide
  exact of_forall_ascii c hkept.1 hascii hkept

/-! ## Components -/

/-- A text that both readings take for the given octets, and that stands in a query as one value
whatever is around it. -/
structure SafelyWritten (bs : List UInt8) (written : List Char) : Prop where
  plain : Percent.decode written = bs
  form : decodeOctets written = bs
  alphabet : Written written
  free : ∀ c ∈ written, isDelimiter c = false

/-- **A component is safe, and both readings give its text back.** It is what forms write with each
plus sign replaced, and texts are written one after the other as they are together. -/
theorem encodeComponent_safely (s t : String) :
    SafelyWritten s.toUTF8.data.toList (encodeComponent s.toList) ∧
      encodeComponent s.toList = plusEscaped (serialized s.toUTF8.data.toList) ∧
      encodeComponent (s ++ t).toList = encodeComponent s.toList ++ encodeComponent t.toList := by
  rw [← octets_toList]
  refine ⟨⟨decode_encodeComponent _, decodeOctets_encodeComponent _, written_encodeComponent _,
    fun _ => not_isDelimiter_of_mem_encodeComponent⟩, encodeComponent_eq _, ?_⟩
  rw [String.toList_append, encodeComponent_append]

example : encodeComponent "a+b é".toList = "a%2Bb%20%C3%A9".toList := by decide +kernel

end Form

end Tenancy.Text
