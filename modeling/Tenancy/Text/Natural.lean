/-!
# Numbers in settings and parameters

A whole number is one or more ASCII digits, with a plus sign in front if one likes, up to a bound.
Reading goes from left to right and the first fault is the one that is told, so a number that has
already grown past the bound is too large whatever follows.
-/

set_option autoImplicit false

namespace Tenancy.Text.Natural

/-- Why a text is no whole number within the bound. -/
inductive Fault where
  | empty
  | invalidDigit
  | tooLarge
  deriving DecidableEq, Repr

/-- The fault in words. -/
def Fault.message : Fault → String
  | .empty => "cannot parse integer from empty string"
  | .invalidDigit => "invalid digit found in string"
  | .tooLarge => "number too large to fit in target type"

/-- The value of the digits, `acc` standing in front of them. -/
def digits (bound : Nat) (acc : Nat) : List Char → Except Fault Nat
  | [] => .ok acc
  | c :: cs =>
    if c.isDigit then
      let value := acc * 10 + (c.toNat - 48)
      if value ≤ bound then digits bound value cs else .error .tooLarge
    else .error .invalidDigit

/-- The number that the characters spell, at most `bound`. -/
def ofChars (bound : Nat) : List Char → Except Fault Nat
  | [] => .error .empty
  | ['+'] => .error .invalidDigit
  | '+' :: cs => digits bound 0 cs
  | cs => digits bound 0 cs

/-- The number that a text spells, at most `bound`. -/
def parse (bound : Nat) (s : String) : Except Fault Nat := ofChars bound s.toList

/-- The greatest number of sixteen binary digits, the bound of ports. -/
def max16 : Nat := 65535

/-- The greatest number of sixty-four binary digits, the bound of capacities. -/
def max64 : Nat := 18446744073709551615

end Tenancy.Text.Natural
