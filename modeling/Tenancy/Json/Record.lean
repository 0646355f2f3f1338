import Tenancy.Json.Basic

/-!
# Records as JSON

A record has named fields in a fixed order. It is written as an object, and read from an object, in
any order and whatever else the object holds, or from an array that lists the fields' values in
their order. A field may be required; it may be one whose absence from an object means that it has
no value; or it may have a default, and then an array may stop before it, too.

`ofJson?` settles which fields are there. What their values may be is for the reader of each record,
by `Members.field?` and `Members.optional?`.
-/

set_option autoImplicit false

namespace Tenancy.Json

/-- What it means that a field is missing. -/
inductive Presence where
  | required
  | optional
  | defaulted
  deriving DecidableEq, Repr

/-- The kinds of value that a reader tells apart by the first token. -/
inductive Shape where
  | text
  | textOrNull
  | flag
  | word
  | any
  deriving DecidableEq, Repr

/-- A field of a record. -/
structure Field where
  name : String
  shape : Shape
  presence : Presence
  deriving DecidableEq, Repr

/-- The fields that an array's values stand for, in order; the array may stop before fields that
have defaults, and may not go on behind the last. -/
def Field.zip : List Field → List Json → Option (List (String × Json))
  | [], [] => some []
  | [], _ :: _ => none
  | f :: fs, [] => if f.presence = .defaulted then zip fs [] else none
  | f :: fs, v :: vs => (zip fs vs).map ((f.name, v) :: ·)

/-- The members that are fields of the record, if none that is required is missing. -/
def Field.pick (fields : List Field) (members : Members) : Option Members :=
  if fields.all fun f => f.presence ≠ .required || (Members.get? members f.name).isSome then
    some (members.filter fun m => fields.any fun f => f.name == m.1)
  else none

/-- The fields that a value holds as a record. -/
def recordOf? (fields : List Field) : Json → Option Members
  | .object members => Field.pick fields members
  | .array items => Field.zip fields items
  | _ => none

namespace Members

/-- The value of a field that must be there. -/
def field? {α : Type} (members : Members) (name : String) (read : Json → Option α) : Option α :=
  (Members.get? members name).bind read

/-- The value of a field that may be missing or null; nothing if it is there and cannot be read. -/
def optional? {α : Type} (members : Members) (name : String) (read : Json → Option α) :
    Option (Option α) :=
  match Members.get? members name with
  | none => some none
  | some .null => some none
  | some j => (read j).map some

/-- The value of a field that has a default. -/
def orDefault? {α : Type} (members : Members) (name : String) (default : α)
    (read : Json → Option α) : Option α :=
  match Members.get? members name with
  | none => some default
  | some j => read j

end Members

/-! ## Values of single fields -/

/-- The name of a case without contents: a text, or an object whose only member is null. -/
def asName? : Json → Option String
  | .text s => some s
  | .object [(s, .null)] => some s
  | _ => none

/-- A truth value. -/
def asBool? : Json → Option Bool
  | .bool b => some b
  | _ => none

/-- A whole number between two bounds; a number written with a point or an exponent is none. -/
def asWhole? (low high : Int) : Json → Option Int
  | .number (.whole n) => if low ≤ n ∧ n ≤ high then some n else none
  | _ => none

/-- A signed word. -/
def asSigned? (j : Json) : Option Int := asWhole? Number.minWhole 9223372036854775807 j

/-- An unsigned word. -/
def asWord? (j : Json) : Option Nat := (asWhole? 0 Number.maxWhole j).map Int.toNat

end Tenancy.Json
