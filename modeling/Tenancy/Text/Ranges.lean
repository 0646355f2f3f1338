/-!
# Sets of characters as ranges of code points

A property of characters that a standard lists is kept as ascending ranges of code points, both ends
included. A mapping of characters is kept as runs: neighbours, or every second one of them, are moved
by the same distance.
-/

set_option autoImplicit false

namespace Tenancy.Text

/-- Ranges of code points `(first, last)`, ascending. -/
abbrev Ranges := List (Nat × Nat)

/-- Whether a code point lies in one of the ranges; the search ends at the first range beyond it. -/
def Ranges.holds : Ranges → Nat → Bool
  | [], _ => false
  | (first, last) :: rest, n => if n < first then false else n ≤ last || Ranges.holds rest n

/-- Runs `(first, last, step, image)`, ascending by their first code point: `first` is mapped to
`image`, and every `step`-th code point from there to `last` to the one as far behind `image`. -/
abbrev Runs := List (Nat × Nat × Nat × Nat)

/-- What a code point is mapped to, if a run holds it. -/
def Runs.get? : Runs → Nat → Option Nat
  | [], _ => none
  | (first, last, step, image) :: rest, n =>
    if n < first then none
    else if n ≤ last && (n - first) % step == 0 then some (image + (n - first))
    else Runs.get? rest n

end Tenancy.Text
