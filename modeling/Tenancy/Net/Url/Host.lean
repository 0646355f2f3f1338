import Tenancy.Net.Address
import Tenancy.Net.Domain
import Tenancy.Net.Url

/-!
# Hosts of locators

A host in brackets is an IPv6 address and is written anew, shortest form. Any other host of a scheme
that is not special is kept as it is, provided it holds no character that would end it. Special
schemes have host names: they are percent-decoded and written in ASCII, and a name whose last label
is a number is an IPv4 address, in any of the ways these were once written.
-/

set_option autoImplicit false

namespace Tenancy.Net.Url

/-- Why a text is no locator. -/
inductive Fault where
  | noScheme
  | emptyHost
  | invalidPort
  | invalidIpv6
  | invalidIpv4
  | invalidHostChar
  | invalidHostName
  deriving DecidableEq, Repr

/-- The fault in words. -/
def Fault.message : Fault → String
  | .noScheme => "relative URL without a base"
  | .emptyHost => "empty host"
  | .invalidPort => "invalid port number"
  | .invalidIpv6 => "invalid IPv6 address"
  | .invalidIpv4 => "invalid IPv4 address"
  | .invalidHostChar => "invalid domain character"
  | .invalidHostName => "invalid international domain name"

/-- The characters that no host holds. -/
def forbiddenInHost : List Char :=
  [Char.ofNat 0, '\t', '\n', '\r', ' ', '#', '/', ':', '<', '>', '?', '@', '[', '\\', ']', '^', '|']

/-- A host in brackets. -/
def bracketedHost (cs : List Char) : Except Fault (List Char) :=
  match cs.getLast? with
  | some ']' =>
    match ipv6? (cs.drop 1).dropLast with
    | some groups => .ok ('[' :: renderIpv6 groups ++ [']'])
    | none => .error .invalidIpv6
  | _ => .error .invalidIpv6

/-- The host of a scheme that is not special. -/
def opaqueHost (cs : List Char) : Except Fault (List Char) :=
  if cs.head? = some '[' then bracketedHost cs
  else if cs.any forbiddenInHost.contains then .error .invalidHostChar
  else .ok (Text.Percent.encode shows cs)

/-! ## Host names -/

/-- The digits of a number in an old way of writing IPv4 addresses, and their base: hexadecimal
behind `0x`, octal behind a zero. -/
def oldDigits (cs : List Char) : Nat × List Char :=
  match cs with
  | '0' :: x :: rest => if x == 'x' || x == 'X' then (16, rest) else (8, x :: rest)
  | _ => (10, cs)

/-- A number in an old way of writing IPv4 addresses. No digits at all are a zero. -/
def oldNumber? (cs : List Char) : Option Nat :=
  if cs = [] then none
  else
    let (base, digits) := oldDigits cs
    digits.foldlM (fun acc c =>
      (hexDigit? c).bind fun d => if d < base then some (acc * base + d) else none) 0

/-- The labels of a name without the empty one behind a final dot. -/
def labelsOf (cs : List Char) : List (List Char) :=
  let labels := Text.pieces '.' cs
  if 1 < labels.length ∧ labels.getLast? = some [] then labels.dropLast else labels

/-- Whether the last label is a number. -/
def endsInNumber (cs : List Char) : Bool :=
  match (labelsOf cs).getLast? with
  | none => false
  | some l =>
    (l ≠ [] && l.all Char.isDigit) ||
      (((oldDigits l).1 == 16) && (oldNumber? l).isSome)

/-- The address that a name stands for whose last label is a number: one to four numbers, the last
of which fills all octets that are left. -/
def oldIpv4? (cs : List Char) : Option (List Nat) := do
  let numbers ← (labelsOf cs).mapM oldNumber?
  let last ← numbers.getLast?
  let front := numbers.dropLast
  if 4 < numbers.length ∨ front.any (fun n => 255 < n) ∨ Nat.pow 256 (5 - numbers.length) ≤ last then none
  let value := front.zipIdx.foldl (fun value (n, i) => value + n * Nat.pow 256 (3 - i)) last
  return [value / Nat.pow 256 3 % 256, value / Nat.pow 256 2 % 256, value / 256 % 256, value % 256]

/-- The host of a special scheme. -/
def namedHost (cs : List Char) : Except Fault (List Char) :=
  if cs.head? = some '[' then bracketedHost cs
  else
    match Domain.toAscii? (Text.decodeLossy (Text.Percent.decode cs)) with
    | none => .error .invalidHostName
    | some name =>
      if name = [] then .error .emptyHost
      else if endsInNumber name then
        match oldIpv4? name with
        | some octets => .ok (renderIpv4 octets)
        | none => .error .invalidIpv4
      else .ok name

end Tenancy.Net.Url
