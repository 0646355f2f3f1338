import Tenancy.Net.Domain.Mapping.Refused
import Tenancy.Net.Domain.Mapping.Spelled
import Tenancy.Net.Domain.Mapping.Variants

/-!
# Characters as names have them

Names are compared without regard to letter case, width and style, so each character has a fate: it is
kept, it is left out, it gives way to the characters it stands for, or no name holds it. Characters
whose only other spelling is a composed form are kept here: composing settles them.
-/

set_option autoImplicit false

namespace Tenancy.Net.Domain

open Text

/-- What becomes of a character in a name. -/
inductive Fate where
  | kept
  | leftOut
  | replaced (characters : List Char)
  | refused
  deriving DecidableEq, Repr

/-- The fate of a character. -/
def fateOf (c : Char) : Fate :=
  let n := c.toNat
  if refused.holds n then .refused
  else if leftOut.holds n then .leftOut
  else match variants.get? n with
    | some m => .replaced [Char.ofNat m]
    | none =>
      match spelledOut.lookup n with
      | some ns => .replaced (ns.map Char.ofNat)
      | none => .kept

/-- The characters after their fates; there are none if one is refused. -/
def mapped? : List Char → Option (List Char)
  | [] => some []
  | c :: cs =>
    match fateOf c with
    | .kept => (mapped? cs).map (c :: ·)
    | .leftOut => mapped? cs
    | .replaced ds => (mapped? cs).map (ds ++ ·)
    | .refused => none

end Tenancy.Net.Domain
