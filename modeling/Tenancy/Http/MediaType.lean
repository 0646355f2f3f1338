import Tenancy.Settings
import Tenancy.Text.Split

/-!
# Media types

A content type names a type and a subtype, the subtype perhaps with a suffix behind its last plus
sign, and then any number of parameters. Only JSON bodies are read here, so what matters is whether
a content type is well formed and says JSON, by its subtype or by its suffix.
-/

set_option autoImplicit false

namespace Tenancy.Http

/-- A media type without its parameters. -/
structure MediaType where
  type : List Char
  subtype : List Char
  suffix : Option (List Char)
  deriving DecidableEq, Repr

namespace MediaType

/-- Whether a character may stand in a token. -/
def isTokenChar (c : Char) : Bool := Settings.isHeaderChar c

/-- Where a reader of parameters stands. -/
inductive Place where
  | nameStart
  | name
  | valueStart
  | value
  | quoted (isEmpty : Bool)
  | afterQuote
  deriving DecidableEq, Repr

/-- One character of the parameters. A quote directly behind the opening one does not close it. -/
def Place.step : Place → Char → Option Place
  | .nameStart, c =>
    if c == ' ' then some .nameStart else if isTokenChar c then some .name else none
  | .name, c =>
    if isTokenChar c then some .name else if c == '=' then some .valueStart else none
  | .valueStart, c =>
    if c == '"' then some (.quoted true) else if isTokenChar c then some .value else none
  | .value, c =>
    if isTokenChar c then some .value else if c == ';' then some .nameStart else none
  | .quoted isEmpty, c =>
    if c == '"' && !isEmpty then some .afterQuote
    else if 0x20 ≤ c.toNat && c.toNat != 0x7F then some (.quoted false)
    else none
  | .afterQuote, c =>
    if c == ';' then some .nameStart else if c == ' ' then some .afterQuote else none

/-- Whether parameters may end here. -/
def Place.mayEnd : Place → Bool
  | .name => false
  | .quoted _ => false
  | _ => true

/-- Whether the characters are well-formed parameters. -/
def areParameters (cs : List Char) : Bool :=
  match cs.foldlM Place.step .nameStart with
  | some p => p.mayEnd
  | none => false

/-- The last plus sign of a subtype that has something in front of it begins the suffix. -/
def cutSuffix (cs : List Char) : List Char × Option (List Char) :=
  match Text.cutLast '+' cs with
  | some (a, b) => if a = [] then (cs, none) else (a, some b)
  | none => (cs, none)

/-- The media type that a content type says, if it is well formed. -/
def parse (cs : List Char) : Option MediaType := do
  let (type, rest) ← Text.cutFirst '/' cs
  if type = [] ∨ !type.all isTokenChar then none
  let (subtype, parameters) := match Text.cutFirst ';' rest with
    | some (a, b) => (a, b)
    | none => (rest, [])
  if !subtype.all isTokenChar then none
  if subtype = [] ∧ rest ≠ [] then none
  if !areParameters parameters then none
  let (subtype, suffix) := cutSuffix subtype
  return ⟨type, subtype, suffix⟩

/-- Whether the media type is JSON, in any letter case. -/
def isJson (t : MediaType) : Bool :=
  let is (cs : List Char) (word : String) : Bool := cs.map Char.toLower == word.toList
  is t.type "application" && (is t.subtype "json" || t.suffix.any fun s => is s "json")

end MediaType

end Tenancy.Http
