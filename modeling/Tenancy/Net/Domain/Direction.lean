import Tenancy.Net.Domain.Direction.Table

/-!
# Names in two directions

If any label of a name is written from right to left, each label must keep to one direction, or the
name would not show in the order in which it is read. A label is written in the direction of its first
letter. It holds no letter of the other direction, it ends in a letter or digit but for marks, and
right-to-left labels do not mix the two kinds of digits.
-/

set_option autoImplicit false

namespace Tenancy.Net.Domain

open Text

/-- What a character does to the direction of a text. -/
inductive Direction where
  | leftToRight
  | rightToLeft
  | europeanNumber
  | arabicNumber
  | mark
  | neutral
  deriving DecidableEq, Repr

/-- The direction of a character. -/
def directionOf (c : Char) : Direction :=
  let n := c.toNat
  if rightward.holds n then .rightToLeft
  else if europeanNumbers.holds n then .europeanNumber
  else if arabicNumbers.holds n then .arabicNumber
  else if marks.holds n then .mark
  else if neutrals.holds n then .neutral
  else .leftToRight

/-- Whether a character makes its name one in two directions. -/
def turns (c : Char) : Bool :=
  match directionOf c with
  | .rightToLeft => true
  | .arabicNumber => true
  | _ => false

/-- The last direction but for marks. -/
def lastDirection? (ds : List Direction) : Option Direction :=
  (ds.reverse.dropWhile (· == .mark)).head?

/-- Whether directions make a label that is written from left to right. -/
def isLeftToRight (ds : List Direction) : Bool :=
  !ds.contains .rightToLeft && !ds.contains .arabicNumber &&
    (lastDirection? ds == some .leftToRight || lastDirection? ds == some .europeanNumber)

/-- Whether directions make a label that is written from right to left. -/
def isRightToLeft (ds : List Direction) : Bool :=
  !ds.contains .leftToRight && !(ds.contains .europeanNumber && ds.contains .arabicNumber) &&
    (lastDirection? ds == some .rightToLeft || lastDirection? ds == some .europeanNumber ||
      lastDirection? ds == some .arabicNumber)

/-- Whether a label keeps to one direction. An empty one does. -/
def keepsDirection (label : List Char) : Bool :=
  let ds := label.map directionOf
  match ds.head? with
  | none => true
  | some .leftToRight => isLeftToRight ds
  | some .rightToLeft => isRightToLeft ds
  | some _ => false

end Tenancy.Net.Domain
