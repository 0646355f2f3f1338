/-!
# Text as octets

Percent-encoded components and request bodies are octets first. `octets` writes text as UTF-8;
`decode` reads it back strictly, naming the first place where the octets stop being UTF-8, and
`decodeLossy` puts U+FFFD where each ill-formed run stands.

Reading is a machine over single octets. Between characters it is at `start`; inside one it is
`owing` a number of continuation octets, the next of which must lie in a given interval. That
interval is what keeps overlong forms, surrogates and code points above U+10FFFF out.
-/

set_option autoImplicit false

namespace Tenancy.Text

/-- The UTF-8 form of a sequence of characters. -/
def octets (cs : List Char) : List UInt8 := cs.flatMap String.utf8EncodeChar

theorem octets_append (a b : List Char) : octets (a ++ b) = octets a ++ octets b := by
  simp [octets]

namespace Utf8

/-- Where the machine stands: between characters, or `owed` octets before the end of one that has
`seen` octets and the value `acc` so far, the next octet lying between `low` and `high`. -/
inductive State where
  | start
  | owing (owed : Nat) (low high : Nat) (acc : Nat) (seen : Nat)
  deriving DecidableEq, Repr

/-- What comes out: a character, or a run of octets that is none; `cut` is the run that the end of
the input interrupts. -/
inductive Piece where
  | char (c : Char) (width : Nat)
  | bad (width : Nat)
  | cut (width : Nat)
  deriving DecidableEq, Repr

/-- The first octet of a character. -/
def lead (b : Nat) : List Piece × State :=
  if b < 0x80 then ([.char (Char.ofNat b) 1], .start)
  else if 0xC2 ≤ b && b ≤ 0xDF then ([], .owing 1 0x80 0xBF (b - 0xC0) 1)
  else if b == 0xE0 then ([], .owing 2 0xA0 0xBF 0 1)
  else if b == 0xED then ([], .owing 2 0x80 0x9F 0xD 1)
  else if 0xE1 ≤ b && b ≤ 0xEF then ([], .owing 2 0x80 0xBF (b - 0xE0) 1)
  else if b == 0xF0 then ([], .owing 3 0x90 0xBF 0 1)
  else if b == 0xF4 then ([], .owing 3 0x80 0x8F 4 1)
  else if 0xF1 ≤ b && b ≤ 0xF3 then ([], .owing 3 0x80 0xBF (b - 0xF0) 1)
  else ([.bad 1], .start)

/-- One octet. An octet that cannot continue ends the run before it and is read afresh. -/
def step : State → Nat → List Piece × State
  | .start, b => lead b
  | .owing owed low high acc seen, b =>
    if low ≤ b && b ≤ high then
      let value := acc * 64 + (b - 0x80)
      if owed ≤ 1 then ([.char (Char.ofNat value) (seen + 1)], .start)
      else ([], .owing (owed - 1) 0x80 0xBF value (seen + 1))
    else
      let (out, next) := lead b
      (.bad seen :: out, next)

/-- The pieces of a sequence of octets, from a state on. -/
def run : State → List UInt8 → List Piece
  | .start, [] => []
  | .owing _ _ _ _ seen, [] => [.cut seen]
  | s, b :: bs => (step s b.toNat).1 ++ run (step s b.toNat).2 bs

/-- Where octets stop being UTF-8: the number of good octets in front, and the width of the
ill-formed run unless the input ends inside it. -/
structure Fault where
  index : Nat
  width : Option Nat
  deriving DecidableEq, Repr

/-- The fault in words. -/
def Fault.message (f : Fault) : String :=
  match f.width with
  | some n => "invalid utf-8 sequence of " ++ toString n ++ " bytes from index " ++ toString f.index
  | none => "incomplete utf-8 byte sequence from index " ++ toString f.index

/-- The characters of the pieces, if all are characters; `index` octets stand in front. -/
def collect (index : Nat) : List Piece → Except Fault (List Char)
  | [] => .ok []
  | .char c w :: rest => (collect (index + w) rest).map (c :: ·)
  | .bad w :: _ => .error ⟨index, some w⟩
  | .cut _ :: _ => .error ⟨index, none⟩

/-- A piece as a character, U+FFFD standing for what is none. -/
def Piece.orReplacement : Piece → Char
  | .char c _ => c
  | .bad _ => Char.ofNat 0xFFFD
  | .cut _ => Char.ofNat 0xFFFD

end Utf8

/-- The characters that the octets stand for, or where they stop being UTF-8. -/
def decode (bs : List UInt8) : Except Utf8.Fault (List Char) := Utf8.collect 0 (Utf8.run .start bs)

/-- The characters that the octets stand for, ill-formed runs replaced by U+FFFD. -/
def decodeLossy (bs : List UInt8) : List Char := (Utf8.run .start bs).map Utf8.Piece.orReplacement

end Tenancy.Text
