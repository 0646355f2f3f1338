import Tenancy.Text.Normal.Table

/-!
# One spelling for one text

A letter with a mark may be one character or two, and several marks may follow a letter in any order.
`compose` gives all spellings of a text the same form (normal form C): every character is taken apart,
marks between letters are put in the order of their classes, and what can be composed is composed
again, each mark with the letter before it unless another mark of its class or a higher one stands
between them.

Hangul syllables are composed by a rule: they are numbered by their leading consonant, vowel and
trailing consonant.
-/

set_option autoImplicit false

namespace Tenancy.Text

namespace Normal

/-- The class that one of the ranges gives a code point; zero if it is no mark. -/
def classIn : List (Nat × Nat × Nat) → Nat → Nat
  | [], _ => 0
  | (first, last, k) :: rest, n => if n < first then 0 else if n ≤ last then k else classIn rest n

/-- The class of a code point; zero if it is no mark that moves. -/
def classOf (n : Nat) : Nat := classIn classes n

/-! ## Hangul syllables -/

/-- The first syllable. -/
def firstSyllable : Nat := 0xAC00

/-- The number of syllables with one leading consonant. -/
def syllablesPerLead : Nat := 21 * 28

/-- Whether a code point is a syllable. -/
def isSyllable (n : Nat) : Bool := firstSyllable ≤ n && n < firstSyllable + 19 * syllablesPerLead

/-- The letters of a syllable. -/
def syllableLetters (n : Nat) : List Nat :=
  let i := n - firstSyllable
  let lead := 0x1100 + i / syllablesPerLead
  let vowel := 0x1161 + i % syllablesPerLead / 28
  if i % 28 = 0 then [lead, vowel] else [lead, vowel, 0x11A7 + i % 28]

/-- The syllable of a leading consonant and a vowel, or of a syllable and a trailing consonant. -/
def syllable? (a b : Nat) : Option Nat :=
  if 0x1100 ≤ a ∧ a < 0x1113 ∧ 0x1161 ≤ b ∧ b < 0x1176 then
    some (firstSyllable + (a - 0x1100) * syllablesPerLead + (b - 0x1161) * 28)
  else if isSyllable a ∧ (a - firstSyllable) % 28 = 0 ∧ 0x11A7 < b ∧ b < 0x11C3 then
    some (a + (b - 0x11A7))
  else none

/-! ## Taking apart -/

/-- The parts of a code point by the composites given, of which the base of each is found behind
it. -/
def partsIn : List (Nat × Nat × Nat) → Nat → List Nat
  | [], n => [n]
  | (whole, base, mark) :: rest, n =>
    if n = whole then partsIn rest base ++ [mark] else partsIn rest n

/-- All parts of a code point. -/
def parts (n : Nat) : List Nat :=
  if n < 0x80 then [n]
  else if isSyllable n then syllableLetters n
  else match apart.lookup n with
    | some ns => ns
    | none => partsIn composites n

/-! ## Putting marks in order -/

/-- A code point in front of others in order: a mark moves behind the marks of lower classes. -/
def insertMark (n : Nat) : List Nat → List Nat
  | [] => [n]
  | m :: rest =>
    if classOf m ≠ 0 ∧ classOf m < classOf n then m :: insertMark n rest else n :: m :: rest

/-- The code points with the marks between letters in the order of their classes. -/
def ordered : List Nat → List Nat
  | [] => []
  | n :: rest => insertMark n (ordered rest)

/-! ## Composing -/

/-- The composite of two code points. -/
def whole? (a b : Nat) : Option Nat :=
  match syllable? a b with
  | some n => some n
  | none => (composites.find? fun c => c.2.1 == a && c.2.2 == b).map (·.1)

/-- Whether a code point can reach the letter before the marks given, the last of them first. -/
def reaches (n : Nat) : List Nat → Bool
  | [] => true
  | m :: _ => classOf m < classOf n

/-- The composed form from a letter on; `between` holds the marks read behind it that stay, the last
one first. -/
def composeFrom (letter : Nat) (between : List Nat) : List Nat → List Nat
  | [] => letter :: between.reverse
  | n :: rest =>
    match if reaches n between then whole? letter n else none with
    | some whole => composeFrom whole between rest
    | none =>
      if classOf n = 0 then letter :: between.reverse ++ composeFrom n [] rest
      else composeFrom letter (n :: between) rest

/-- The composed form of code points that are taken apart and in order. -/
def composed : List Nat → List Nat
  | [] => []
  | n :: rest => if classOf n = 0 then composeFrom n [] rest else n :: composed rest

end Normal

/-- The characters in composed normal form. -/
def compose (cs : List Char) : List Char :=
  (Normal.composed (Normal.ordered (cs.flatMap fun c => Normal.parts c.toNat))).map Char.ofNat

end Tenancy.Text
