import Tenancy.Net.Domain.Joining.Table
import Tenancy.Text.Normal

/-!
# Joiners in labels

Two characters without a picture tell how their neighbours join. In a name they would go unseen, so
they stand only where they show: behind a sign that takes a consonant's vowel away, or, for the one
that parts letters, between two letters that would join.
-/

set_option autoImplicit false

namespace Tenancy.Net.Domain

open Text

/-- The character that keeps its neighbours from joining. -/
def nonJoiner : Char := Char.ofNat 0x200C

/-- The character that makes its neighbours join. -/
def joiner : Char := Char.ofNat 0x200D

/-- The class of the signs that take a consonant's vowel away. -/
def viramaClass : Nat := 9

/-- Whether a character takes a consonant's vowel away. -/
def isVirama (c : Char) : Bool := Normal.classOf c.toNat == viramaClass

/-- The first character that matters for joining. -/
def firstJoining? (cs : List Char) : Option Nat :=
  (cs.dropWhile fun c => transparent.holds c.toNat).head?.map Char.toNat

/-- Whether the text before a place, the nearest character first, joins what follows it. -/
def joinsNext (before : List Char) : Bool :=
  match firstJoining? before with
  | some n => joiningBoth.holds n || joiningNext.holds n
  | none => false

/-- Whether the text behind a place joins what precedes it. -/
def joinsPrevious (after : List Char) : Bool :=
  match firstJoining? after with
  | some n => joiningBoth.holds n || joiningPrevious.holds n
  | none => false

/-- Whether a joiner may stand between the texts given, the nearest character of `before` first. -/
def mayJoin (c : Char) (before after : List Char) : Bool :=
  match before with
  | [] => false
  | d :: _ => isVirama d || (c == nonJoiner && joinsNext before && joinsPrevious after)

/-- Whether all joiners of a label stand where they may; `before` holds what was read, the nearest
character first. -/
def joinersFit (before : List Char) : List Char → Bool
  | [] => true
  | c :: cs =>
    ((c != joiner && c != nonJoiner) || mayJoin c before cs) && joinersFit (c :: before) cs

/-- Whether a label begins with a character that is set on the one before it. -/
def beginsCombining (label : List Char) : Bool :=
  match label.head? with
  | some c => combining.holds c.toNat
  | none => false

end Tenancy.Net.Domain
