import Tenancy.Text.Percent
import Tenancy.Text.Split

/-!
# Form-encoded queries

A query is a list of pairs joined by ampersands, a name and a value joined by the first equals sign,
in which a plus sign stands for a space and triples stand for octets. `encodeComponent` writes a
value so that it is read back by this reading and by plain percent-decoding alike: a space becomes
`%20`, never a plus sign.
-/

set_option autoImplicit false

namespace Tenancy.Text.Form

/-- The octets that stand for themselves in a component: letters, digits, and `*`, `-`, `.`, `_`. -/
def isPlain (b : UInt8) : Bool :=
  (0x30 ≤ b && b ≤ 0x39) || (0x41 ≤ b && b ≤ 0x5A) || (0x61 ≤ b && b ≤ 0x7A) ||
    b == 0x2A || b == 0x2D || b == 0x2E || b == 0x5F

/-- A value as a component that both readings give back. -/
def encodeComponent (cs : List Char) : List Char := Percent.encode isPlain cs

/-- Writing two texts one after the other is writing them together. -/
theorem encodeComponent_append (a b : List Char) :
    encodeComponent (a ++ b) = encodeComponent a ++ encodeComponent b := by
  simp [encodeComponent, Percent.encode, Percent.encodeOctets, octets_append]

/-- The octets that a name or value stands for: a plus sign is a space, triples are octets. -/
def decodeOctets (cs : List Char) : List UInt8 :=
  Percent.decodeOctets ((octets cs).map fun b => if b = 0x2B then 0x20 else b)

/-- A name or value read as text, ill-formed octets replaced. -/
def decodeComponent (cs : List Char) : List Char := decodeLossy (decodeOctets cs)

/-- One segment as a pair: the value is empty where no equals sign stands. -/
def pair (segment : List Char) : List Char × List Char :=
  match cutFirst '=' segment with
  | some (name, value) => (decodeComponent name, decodeComponent value)
  | none => (decodeComponent segment, [])

/-- The segments of a query that are not empty. -/
def segments (query : List Char) : List (List Char) := (pieces '&' query).filter (· ≠ [])

/-- The pairs of a query, in order. -/
def pairs (query : List Char) : List (List Char × List Char) := (segments query).map pair

end Tenancy.Text.Form
