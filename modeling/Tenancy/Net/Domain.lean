import Tenancy.Net.Domain.Direction
import Tenancy.Net.Domain.Joining
import Tenancy.Net.Domain.Mapping
import Tenancy.Net.Domain.Punycode

/-!
# Names of hosts in any script

Names are kept in ASCII. Other scripts are admitted: the characters of a name are mapped and composed,
so that its spellings become one, and a label that still has characters beyond ASCII is written in
ASCII behind `xn--`. A label that comes in this form must be the form of a label that is good: its
characters are mapped to themselves, it is composed, and there is something beyond ASCII in it.

`toAscii?` gives the name in ASCII, unless it is no name.
-/

set_option autoImplicit false

namespace Tenancy.Net.Domain

open Text

/-- What stands in front of a label that is written in ASCII. -/
def mark : List Char := "xn--".toList

/-- The characters that no name holds, whatever they were mapped from: they end a host or are part of
percent-encoding, or do not show. -/
def isForbidden (c : Char) : Bool :=
  c.toNat ≤ 0x20 || c.toNat == 0x7F || "#%/:<>?@[\\]^|".toList.contains c

/-- The greatest length of a label in ASCII, without its mark, that is read. -/
def longestRead : Nat := 2000

/-- The greatest length of a label that is written in ASCII. -/
def longestWritten : Nat := 1000

/-- Whether a label is in ASCII. -/
def isAscii (label : List Char) : Bool := label.all fun c => c.toNat < 0x80

/-- Whether a label has only characters that stay as they are. -/
def isStable (label : List Char) : Bool :=
  label.all (fun c => fateOf c == .kept && !isForbidden c && c != '.') && compose label == label

/-- The label that stands in a name in ASCII, behind its mark. -/
def decodeLabel? (cs : List Char) : Option (List Char) := do
  if longestRead < cs.length ∨ cs = [] ∨ cs.getLast? = some '-' then none
  let label ← Punycode.decode cs
  if isStable label then some label else none

/-- A label of a mapped name as it is read. -/
def readLabel? (cs : List Char) : Option (List Char) := do
  let label ← if mark.isPrefixOf cs then decodeLabel? (cs.drop mark.length) else some cs
  if beginsCombining label || !joinersFit [] label then none
  else if !isAscii label && decide (longestWritten < label.length) then none
  else some label

/-- The labels of a name as they are read. -/
def readLabels? (cs : List Char) : Option (List (List Char)) := do
  let name := compose (← mapped? cs)
  if name.any isForbidden then none
  let labels ← (pieces '.' name).mapM readLabel?
  if labels.any (·.any turns) && !labels.all keepsDirection then none else some labels

/-- A label in ASCII. -/
def writeLabel (label : List Char) : List Char :=
  if isAscii label then label else mark ++ Punycode.encode label

/-- The name in ASCII. -/
def toAscii? (cs : List Char) : Option (List Char) :=
  (readLabels? cs).map fun labels => ['.'].intercalate (labels.map writeLabel)

end Tenancy.Net.Domain
