import Tenancy.Text.Split

/-!
# Labels in ASCII

A label with characters beyond ASCII is written as its ASCII characters, a hyphen if there are any,
and then where the others go: they are inserted one by one, in the order of their code points, and
each is told by its distance from the insertion before, counted in places over all code points
between. A distance is a number whose digits, letters and digits with values below 36, come lowest
first; how far a digit may go before it ends the number adapts to the distances so far.

`decode` and `encode` follow the same state: the last code point inserted, the place behind it, and
the bias that the digits are read with.
-/

set_option autoImplicit false

namespace Tenancy.Net.Domain.Punycode

open Text

/-! ## Digits -/

/-- The value of a digit; capital letters count as small ones. -/
def digit? (c : Char) : Option Nat :=
  if c.isLower then some (c.toNat - 97)
  else if c.isUpper then some (c.toNat - 65)
  else if c.isDigit then some (c.toNat - 22)
  else none

/-- The digit of a value below 36. -/
def ofDigit (d : Nat) : Char := Char.ofNat (if d < 26 then d + 97 else d + 22)

/-- The value below which a digit ends its number, `place` digits' widths of 36 into it. -/
def threshold (bias place : Nat) : Nat :=
  if place ≤ bias then 1 else if bias + 26 ≤ place then 26 else place - bias

/-- Every number has a last digit: a zero ends it anywhere. -/
theorem threshold_pos (bias place : Nat) : 0 < threshold bias place := by
  unfold threshold
  split
  · omega
  · split <;> omega

/-- A distance divided by 35 until it is small, and 36 for each division. -/
def scaled (distance : Nat) : Nat × Nat :=
  if 455 < distance then
    let (d, k) := scaled (distance / 35)
    (d, k + 36)
  else (distance, 0)
termination_by distance
decreasing_by omega

/-- The bias behind a distance, once a label has `size` characters. The first distance of a label is
usually much the greatest. -/
def adapt (first : Bool) (distance size : Nat) : Nat :=
  let d := if first then distance / 700 else distance / 2
  let (d, k) := scaled (d + d / size)
  k + 36 * d / (d + 38)

/-- The bias in the beginning. -/
def firstBias : Nat := 72

/-- The first code point that is not ASCII. -/
def firstPoint : Nat := 0x80

/-! ## Reading -/

/-- The greatest number that a distance or a place may come to. -/
def limit : Nat := Nat.pow 2 32 - 1

/-- Where reading stands: the characters so far, the last code point inserted, the place where it
began to count and where it is now, the bias, and the weight and place of the next digit. -/
structure Reading where
  label : List Char
  point : Nat
  start : Nat
  position : Nat
  bias : Nat
  weight : Nat
  place : Nat

/-- Reading between two distances. -/
def Reading.between (label : List Char) (point position bias : Nat) : Reading :=
  ⟨label, point, position, position, bias, 1, 36⟩

/-- Inserts the character that the position has come to. -/
def Reading.insert (r : Reading) : Option Reading :=
  let size := r.label.length + 1
  let point := r.point + r.position / size
  let position := r.position % size
  if point.isValidChar then
    some (.between (r.label.insertIdx position (Char.ofNat point)) point (position + 1)
      (adapt (r.start == 0) (r.position - r.start) size))
  else none

/-- Reads a digit. -/
def Reading.step (r : Reading) (c : Char) : Option Reading := do
  let d ← digit? c
  let t := threshold r.bias r.place
  let moved := { r with position := r.position + d * r.weight }
  if limit < moved.position then none
  else if d < t then moved.insert
  else if limit < r.weight * (36 - t) then none
  else some { moved with weight := r.weight * (36 - t), place := r.place + 36 }

/-- The ASCII characters of a label and the distances behind the last hyphen. A hyphen with nothing in
front of it is no such hyphen. -/
def cutBasic (cs : List Char) : List Char × List Char :=
  match cutLast '-' cs with
  | some ([], _) => ([], cs)
  | some (basic, distances) => (basic, distances)
  | none => ([], cs)

/-- The label that ASCII characters stand for. -/
def decode (cs : List Char) : Option (List Char) := do
  let (basic, distances) := cutBasic cs
  if basic.any (fun c => firstPoint ≤ c.toNat) then none
  let r ← distances.foldlM Reading.step (.between (basic.map Char.toLower) firstPoint 0 firstBias)
  if r.place = 36 then some r.label else none

/-! ## Writing -/

/-- The digits of a distance from one place on. -/
def digitsFrom (bias place distance : Nat) : List Char :=
  let t := threshold bias place
  if distance < t then [ofDigit distance]
  else
    ofDigit (t + (distance - t) % (36 - t)) ::
      digitsFrom bias (place + 36) ((distance - t) / (36 - t))
termination_by distance
decreasing_by
  have h := threshold_pos bias place
  exact Nat.lt_of_le_of_lt (Nat.div_le_self _ _) (by omega)

/-- The digits of all insertions: code points with the places they are inserted at, in order. `point`
and `position` are where the insertion before left off, `size` the characters there are. -/
def distances (first : Bool) (point position bias size : Nat) : List (Nat × Nat) → List Char
  | [] => []
  | (n, place) :: rest =>
    let distance := (n - point) * (size + 1) + place - position
    digitsFrom bias 36 distance ++
      distances false n (place + 1) (adapt first distance (size + 1)) (size + 1) rest

/-- The insertions that make a label out of its ASCII characters: each character beyond ASCII goes
behind those in front of it that are there already. -/
def insertions (cs : List Char) : List (Nat × Nat) :=
  let points := cs.map Char.toNat
  let placed := points.zipIdx.map fun (n, i) => (n, (points.take i).countP (· ≤ n))
  (placed.filter fun p => firstPoint ≤ p.1).mergeSort fun a b => a.1 ≤ b.1

/-- The ASCII characters that a label is written with. -/
def encode (cs : List Char) : List Char :=
  let basic := cs.filter fun c => c.toNat < firstPoint
  basic ++ (if basic = [] then [] else ['-']) ++
    distances true firstPoint 0 firstBias basic.length (insertions cs)

end Tenancy.Net.Domain.Punycode
