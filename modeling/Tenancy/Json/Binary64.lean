/-!
# Numbers of sixty-four bits

A number that is not whole, or too large for a word, is kept as a binary floating-point number: a
sign, a significand of at most 53 binary digits and a power of two. All arithmetic here is exact
arithmetic on naturals followed by one rounding to the nearest such number, a half going to the even
significand, so nothing depends on a machine's floats.

* `ofScaled` reads a significand and a power of ten as JSON numbers are read here: the significand
  is rounded first, and is then multiplied or divided by the rounded power of ten. Two roundings, so
  the answer may be a neighbour of the nearest number; that is the rule.
* `shortest` gives the fewest decimal digits that read back as the number, the nearest such where
  there are several.
-/

set_option autoImplicit false

namespace Tenancy.Json

/-- The number `±significand · 2 ^ exponent`. -/
structure Binary64 where
  negative : Bool
  significand : Nat
  exponent : Int
  deriving DecidableEq, Repr

namespace Binary64

/-- The least power of two. -/
def minExponent : Int := -1074

/-- The greatest power of two. -/
def maxExponent : Int := 971

/-- The least significand of 53 binary digits. -/
def leastNormal : Nat := Nat.pow 2 52

/-- Zero, of either sign. -/
def zero (negative : Bool) : Binary64 := ⟨negative, 0, minExponent⟩

/-- A power of a positive base as a fraction, for exponents of either sign. -/
def power (base : Nat) (e : Int) : Nat × Nat :=
  if 0 ≤ e then (base.pow e.toNat, 1) else (1, base.pow (-e).toNat)

/-- A quotient rounded to the nearest natural, a half to the even one. -/
def roundQuotient (num den : Nat) : Nat :=
  let q := num / den
  let r := num % den
  if 2 * r < den then q
  else if den < 2 * r then q + 1
  else if q % 2 = 0 then q else q + 1

/-- The number of 53 binary digits that is nearest to a positive fraction, or nothing if that is
beyond the greatest one. -/
def roundFraction (negative : Bool) (num den : Nat) : Option Binary64 :=
  if num = 0 then some (zero negative)
  else
    let guess : Int := (num.log2 : Int) - (den.log2 : Int) - 52
    let (pn, pd) := power 2 guess
    let tight := if num * pd < den * pn * leastNormal then guess - 1 else guess
    let e := max tight minExponent
    let (pn, pd) := power 2 e
    let m := roundQuotient (num * pd) (den * pn)
    let (m, e) := if m = 2 * leastNormal then (leastNormal, e + 1) else (m, e)
    if maxExponent < e then none else some ⟨negative, m, e⟩

/-- The size of the number as a fraction. -/
def fraction (x : Binary64) : Nat × Nat :=
  let (pn, pd) := power 2 x.exponent
  (x.significand * pn, pd)

/-- The number nearest to a power of ten between `1` and `10 ^ 308`. -/
def powerOfTen (k : Nat) : Binary64 :=
  (roundFraction false (Nat.pow 10 k) 1).getD (zero false)

/-- A product, rounded. -/
def mul (x y : Binary64) : Option Binary64 :=
  let (a, b) := x.fraction
  let (c, d) := y.fraction
  roundFraction (x.negative != y.negative) (a * c) (b * d)

/-- A quotient by a number other than zero, rounded. -/
def div (x y : Binary64) : Option Binary64 :=
  let (a, b) := x.fraction
  let (c, d) := y.fraction
  roundFraction (x.negative != y.negative) (a * d) (b * c)

/-- The number that `significand · 10 ^ exponent` is read as, or nothing if it is out of range. A
power of ten beyond the greatest is divided by in two goes; a significand of one word has vanished
after two. -/
def ofScaled (negative : Bool) (significand : Nat) (exponent : Int) : Option Binary64 := do
  let f ← roundFraction negative significand 1
  if f.significand = 0 then return f
  if 0 ≤ exponent then
    if exponent ≤ 308 then mul f (powerOfTen exponent.toNat) else none
  else if -308 ≤ exponent then
    div f (powerOfTen (-exponent).toNat)
  else if -616 ≤ exponent then do
    let g ← div f (powerOfTen 308)
    div g (powerOfTen (-exponent - 308).toNat)
  else return zero negative

/-! ## The fewest digits -/

/-- A decimal: `digits · 10 ^ exponent`. -/
structure Decimal where
  digits : Nat
  exponent : Int
  deriving DecidableEq, Repr

/-- Of the decimals `k · 10 ^ p` with this `p` that read back as the number, the nearest, an even
`k` on a tie. Those that read back lie between the halfway points to the number's neighbours,
which count if the significand is even. -/
def nearestOn (x : Binary64) (p : Int) : Option Nat :=
  let (un, ud) := power 2 (x.exponent - 2)
  let (tn, td) := power 10 p
  let a := un * td
  let b := ud * tn
  let value := 4 * x.significand * a
  let low := (if x.significand = leastNormal ∧ minExponent < x.exponent then 4 * x.significand - 1
    else 4 * x.significand - 2) * a
  let high := (4 * x.significand + 2) * a
  let readsBack (k : Nat) : Bool :=
    if x.significand % 2 = 0 then low ≤ k * b && k * b ≤ high else low < k * b && k * b < high
  let k := value / b
  match readsBack k, readsBack (k + 1) with
  | false, false => none
  | true, false => some k
  | false, true => some (k + 1)
  | true, true =>
    let below := value - k * b
    let above := (k + 1) * b - value
    if below < above then some k
    else if above < below then some (k + 1)
    else if k % 2 = 0 then some k else some (k + 1)

/-- The first grid, going down from the power `p`, on which some decimal reads back. -/
def searchGrid (x : Binary64) : Nat → Int → Decimal
  | 0, p => ⟨0, p⟩
  | tries + 1, p =>
    match nearestOn x p with
    | some k => ⟨k, p⟩
    | none => searchGrid x tries (p - 1)

/-- The decimal with the fewest digits that reads back as the number. The search begins above the
number's own size and seventeen digits always suffice. -/
def shortest (x : Binary64) : Decimal :=
  if x.significand = 0 then ⟨0, 0⟩
  else
    let size : Int := (x.significand.log2 : Int) + x.exponent + 1
    searchGrid x 22 (size * 30103 / 100000 + 1)

/-! ## The text of a number

Numbers from `10 ^ -5` up to `10 ^ 16` are written out with a decimal point and at least one digit
behind it; all others with an exponent, which always bears its sign.
-/

/-- The digits of a number, and how many of them stand before the decimal point. -/
def layout (digits : List Char) (point : Int) : List Char :=
  let n : Int := digits.length
  if n ≤ point ∧ point ≤ 16 then
    digits ++ List.replicate (point - n).toNat '0' ++ ['.', '0']
  else if 0 < point ∧ point ≤ 16 then
    digits.take point.toNat ++ '.' :: digits.drop point.toNat
  else if -5 < point ∧ point ≤ 0 then
    '0' :: '.' :: List.replicate (-point).toNat '0' ++ digits
  else
    let e := point - 1
    let sign := if e < 0 then '-' else '+'
    let mantissa := match digits with
      | [] => ['0']
      | [d] => [d]
      | d :: rest => d :: '.' :: rest
    mantissa ++ 'e' :: sign :: Nat.toDigits 10 e.natAbs

/-- The number in decimal. -/
def render (x : Binary64) : List Char :=
  let body :=
    if x.significand = 0 then ['0', '.', '0']
    else
      let d := x.shortest
      let digits := Nat.toDigits 10 d.digits
      layout digits (d.exponent + digits.length)
  if x.negative then '-' :: body else body

end Binary64

end Tenancy.Json
