import Tenancy.Text.Split

/-!
# IP addresses as text

An IPv4 address is four numbers below 256, without leading zeros, between dots. An IPv6 address is
eight groups of one to four hexadecimal digits between colons; one double colon may stand for one or
more zero groups, and the last two groups may be written as an IPv4 address. `isAddress` is what a
host name must not be if it is to name a tenant.
-/

set_option autoImplicit false

namespace Tenancy.Net

open Text

/-- A number below 256 in decimal, without leading zeros. -/
def octet? (cs : List Char) : Option Nat :=
  if cs ≠ [] ∧ cs.length ≤ 3 ∧ cs.all Char.isDigit ∧ (cs.head? ≠ some '0' ∨ cs.length = 1) then
    let n := cs.foldl (fun acc c => acc * 10 + (c.toNat - 48)) 0
    if n < 256 then some n else none
  else none

/-- The four numbers of an IPv4 address. -/
def ipv4? (cs : List Char) : Option (List Nat) :=
  let parts := pieces '.' cs
  if parts.length = 4 then parts.mapM octet? else none

/-- The value of a hexadecimal digit. -/
def hexDigit? (c : Char) : Option Nat :=
  if c.isDigit then some (c.toNat - 48)
  else if 'a' ≤ c && c ≤ 'f' then some (c.toNat - 87)
  else if 'A' ≤ c && c ≤ 'F' then some (c.toNat - 55)
  else none

/-- A group of one to four hexadecimal digits. -/
def group? (cs : List Char) : Option Nat :=
  if cs ≠ [] ∧ cs.length ≤ 4 then
    cs.foldlM (fun acc c => (hexDigit? c).map fun d => acc * 16 + d) 0
  else none

/-- The last group, or the two that an IPv4 address stands for. -/
def lastGroups? (cs : List Char) : Option (List Nat) :=
  match group? cs with
  | some g => some [g]
  | none =>
    match ipv4? cs with
    | some [a, b, c, d] => some [a * 256 + b, c * 256 + d]
    | _ => none

/-- Groups between colons, the last of which may be an IPv4 address. -/
def groups? : List (List Char) → Option (List Nat)
  | [] => some []
  | [p] => lastGroups? p
  | p :: ps => do
    let g ← group? p
    let gs ← groups? ps
    return g :: gs

/-- The groups of a stretch between colons; an empty stretch has none. -/
def stretch? (cs : List Char) : Option (List Nat) :=
  if cs = [] then some [] else groups? (pieces ':' cs)

/-- What stands before and after the first double colon. -/
def cutDoubleColon : List Char → Option (List Char × List Char)
  | [] => none
  | c :: cs =>
    if c = ':' ∧ cs.head? = some ':' then some ([], cs.tail)
    else (cutDoubleColon cs).map fun (a, b) => (c :: a, b)

/-- The eight groups of an IPv6 address. In front of a double colon all groups are hexadecimal. -/
def ipv6? (cs : List Char) : Option (List Nat) :=
  match cutDoubleColon cs with
  | none => do
    let gs ← stretch? cs
    if gs.length = 8 then some gs else none
  | some (before, after) => do
    let front ← if before = [] then some [] else (pieces ':' before).mapM group?
    let back ← stretch? after
    if front.length + back.length ≤ 7 then
      some (front ++ List.replicate (8 - front.length - back.length) 0 ++ back)
    else none

/-- Whether a text is an IP address. -/
def isAddress (cs : List Char) : Bool := (ipv4? cs).isSome || (ipv6? cs).isSome

/-! ## Writing addresses -/

/-- The length of the run of zeros in front. -/
def zeroRun (gs : List Nat) : Nat := (gs.takeWhile (· == 0)).length

/-- The start and length of the longest run of zeros, the first of several; `pos` groups stand in
front. -/
def longestZeros (pos : Nat) : List Nat → Nat × Nat
  | [] => (pos, 0)
  | g :: gs =>
    let here := zeroRun (g :: gs)
    let rest := longestZeros (pos + 1) gs
    if rest.2 ≤ here then (pos, here) else rest

/-- The groups in lower-case hexadecimal, colons between them. -/
def hexGroups (gs : List Nat) : List Char := [':'].intercalate (gs.map fun g => Nat.toDigits 16 g)

/-- The text of eight groups: the longest run of two or more zeros becomes a double colon. -/
def renderIpv6 (gs : List Nat) : List Char :=
  let (start, count) := longestZeros 0 gs
  if count < 2 then hexGroups gs
  else hexGroups (gs.take start) ++ [':', ':'] ++ hexGroups (gs.drop (start + count))

/-- The text of an IPv4 address. -/
def renderIpv4 (octets : List Nat) : List Char :=
  ['.'].intercalate (octets.map fun n => Nat.toDigits 10 n)

end Tenancy.Net
