import Tenancy.Json.Token

/-!
# Reading JSON

One pass over the tokens with a stack of open brackets. The height of the stack is the nesting
depth, and a bracket that would make it higher than the limit is a fault. `parse` reads a whole
document, `value` the first value of a sequence of tokens, and `skip` passes over one: there the
depth does not matter, nor do numbers out of range and halves of surrogate pairs.
-/

set_option autoImplicit false

namespace Tenancy.Json

/-- A bracket that is open: the elements so far, the last one first, or the members so far and the
name whose value is being read. -/
inductive Frame where
  | array (done : List Json)
  | object (done : Members) (name : String)

/-- What may come next, above the open brackets. -/
inductive Stage where
  /-- A value. -/
  | value
  /-- A value, or the end of an array that is still empty. -/
  | firstItem
  /-- A name, or the end of an object that is still empty. -/
  | firstName
  /-- The name of a further member. -/
  | name (done : Members)
  /-- The colon behind a name. -/
  | colon (done : Members) (name : String)
  /-- What follows a value that is complete. -/
  | after (value : Json)

/-- How a value is read: to keep it, within a depth, or to pass over it. -/
inductive Manner where
  | keep (depth : Nat)
  | pass
  deriving DecidableEq, Repr

namespace Manner

/-- Whether one more bracket may be opened inside `open` others. -/
def mayOpen : Manner → Nat → Bool
  | .keep depth, n => n < depth
  | .pass, _ => true

/-- The text of a string token. -/
def text? : Manner → Token → Option String
  | _, .text s => some s
  | .pass, .loneSurrogate => some ""
  | _, _ => none

/-- The value of a token that is a value by itself. -/
def scalar? : Manner → Token → Option Json
  | _, .null => some .null
  | _, .bool b => some (.bool b)
  | _, .number n => some (.number n)
  | _, .text s => some (.text s)
  | .pass, .hugeNumber => some .null
  | .pass, .loneSurrogate => some .null
  | _, _ => none

/-- The first token of a value, above the open brackets. -/
def begin (m : Manner) (frames : List Frame) (t : Token) : Option (Stage × List Frame) :=
  match t with
  | .openArray => if m.mayOpen frames.length then some (.firstItem, frames) else none
  | .openObject => if m.mayOpen frames.length then some (.firstName, frames) else none
  | t => (m.scalar? t).map fun v => (.after v, frames)

/-- One token. At `firstItem` the array is not on the stack yet; it goes there with its first
element. -/
def step (m : Manner) : Stage → List Frame → Token → Option (Stage × List Frame)
  | .value, frames, t => m.begin frames t
  | .firstItem, frames, t =>
    if t = .closeArray then some (.after (.array []), frames) else m.begin (.array [] :: frames) t
  | .firstName, frames, t =>
    if t = .closeObject then some (.after (.object []), frames)
    else (m.text? t).map fun s => (.colon [] s, frames)
  | .name done, frames, t => (m.text? t).map fun s => (.colon done s, frames)
  | .colon done name, frames, t =>
    if t = .colon then some (.value, .object done name :: frames) else none
  | .after v, .array done :: frames, t =>
    if t = .comma then some (.value, .array (v :: done) :: frames)
    else if t = .closeArray then some (.after (.array (v :: done).reverse), frames)
    else none
  | .after v, .object done name :: frames, t =>
    if t = .comma then some (.name (done.insert name v), frames)
    else if t = .closeObject then some (.after (.object (done.insert name v)), frames)
    else none
  | .after _, [], _ => none

/-- The value that the tokens begin with, and the tokens behind it. -/
def run (m : Manner) : Stage → List Frame → List Token → Option (Json × List Token)
  | .after v, [], ts => some (v, ts)
  | _, _, [] => none
  | stage, frames, t :: ts =>
    match m.step stage frames t with
    | some (stage, frames) => run m stage frames ts
    | none => none

end Manner

/-- How deep arrays and objects may nest in a document. -/
def maxDepth : Nat := 127

/-- The first value of the tokens, nested at most `depth` deep, and the tokens behind it. -/
def value (depth : Nat) (ts : List Token) : Option (Json × List Token) :=
  Manner.run (.keep depth) .value [] ts

/-- The tokens behind the first value. -/
def skip (ts : List Token) : Option (List Token) := (Manner.run .pass .value [] ts).map (·.2)

/-- The value of a whole document, nested at most `depth` deep. -/
def parseWithin (depth : Nat) (s : String) : Option Json :=
  match value depth (tokens s.toList) with
  | some (v, []) => some v
  | _ => none

/-- The value of a whole document. -/
def parse (s : String) : Option Json := parseWithin maxDepth s

end Tenancy.Json
