import Tenancy.Text.Utf8

/-!
# Percent-encoding

An octet that a component may not hold is written as a percent sign and two upper-case hexadecimal
digits. Decoding reads such triples in either case and leaves a percent sign that begins none alone,
so a plus sign is a plus sign here; `Text.Form` is the other reading.
-/

set_option autoImplicit false

namespace Tenancy.Text.Percent

/-- The value of a hexadecimal digit, in either case. -/
def digit? (b : UInt8) : Option UInt8 :=
  if 0x30 ≤ b && b ≤ 0x39 then some (b - 0x30)
  else if 0x41 ≤ b && b ≤ 0x46 then some (b - 0x37)
  else if 0x61 ≤ b && b ≤ 0x66 then some (b - 0x57)
  else none

/-- The upper-case hexadecimal digit of a number below sixteen. -/
def digitChar (n : Nat) : Char := if n < 10 then Char.ofNat (48 + n) else Char.ofNat (55 + n)

/-- An octet as a percent sign and two digits. -/
def triple (b : UInt8) : List Char :=
  ['%', digitChar (b.toNat / 16), digitChar (b.toNat % 16)]

/-- The octets, those that `keep` accepts as themselves and the others as triples. -/
def encodeOctets (keep : UInt8 → Bool) (bs : List UInt8) : List Char :=
  bs.flatMap fun b => if keep b then [Char.ofNat b.toNat] else triple b

/-- The text with every octet that `keep` refuses written as a triple. -/
def encode (keep : UInt8 → Bool) (cs : List Char) : List Char := encodeOctets keep (octets cs)

/-- The octet that a percent sign and the two octets behind it stand for, if they are digits. -/
def tripleValue? (a : UInt8) : List UInt8 → Option UInt8
  | h :: l :: _ =>
    if a = 0x25 then
      match digit? h, digit? l with
      | some x, some y => some (x * 16 + y)
      | _, _ => none
    else none
  | _ => none

/-- The octets with every triple read as the octet it stands for, after `skip` octets that belong
to a triple already read. -/
def decodeFrom : Nat → List UInt8 → List UInt8
  | _, [] => []
  | skip + 1, _ :: bs => decodeFrom skip bs
  | 0, a :: bs =>
    match tripleValue? a bs with
    | some b => b :: decodeFrom 2 bs
    | none => a :: decodeFrom 0 bs

/-- The octets with every triple read as the octet it stands for. -/
def decodeOctets (bs : List UInt8) : List UInt8 := decodeFrom 0 bs

/-- The octets that a component stands for. -/
def decode (cs : List Char) : List UInt8 := decodeOctets (octets cs)

/-- The text that a component stands for, if its octets are UTF-8. -/
def decodeText (cs : List Char) : Except Utf8.Fault (List Char) := Text.decode (decode cs)

end Tenancy.Text.Percent
