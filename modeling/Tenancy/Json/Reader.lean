import Tenancy.Json.Parser
import Tenancy.Json.Record

/-!
# Reading a record from a text

A request's body or a settings file is read from left to right, and reading stops at the first
fault. There are two kinds of fault: the text is not JSON (`malformed`), or it is JSON of the wrong
shape so far (`mismatch`). Which of them is told depends on which comes first: a wrong scalar is
noticed when its token has been read, a wrong bracket when it opens, a repeated field at its name,
and a missing one where the object ends. The values of unknown members are passed over.

Nothing is said about the tokens behind the record; they are handed back.
-/

set_option autoImplicit false

namespace Tenancy.Json

/-- Why a text holds no such record. -/
inductive ReadFault where
  | malformed
  | mismatch
  deriving DecidableEq, Repr

namespace Reader

/-- Whether a token is a value of the shape. -/
def fits : Shape → Token → Bool
  | .text, .text _ => true
  | .textOrNull, .text _ => true
  | .textOrNull, .null => true
  | .flag, .bool _ => true
  | .word, .number (.whole n) => 0 ≤ n
  | _, _ => false

/-- A value of a shape. Inside the record one bracket is open already, so a value of any shape may
nest one level less. -/
def fieldValue (shape : Shape) (ts : List Token) : Except ReadFault (Json × List Token) :=
  match shape, ts with
  | .any, ts =>
    match value (maxDepth - 1) ts with
    | some r => .ok r
    | none => .error .malformed
  | _, [] => .error .malformed
  | shape, t :: rest =>
    match (Manner.keep 0).scalar? t with
    | some v => if fits shape t then .ok (v, rest) else .error .mismatch
    | none => if t = .openArray ∨ t = .openObject then .error .mismatch else .error .malformed

/-- The values of an array in the order of the fields. -/
def items (fields : List Field) (isFirst : Bool) (acc : Members) (ts : List Token) :
    Except ReadFault (Members × List Token) :=
  match fields with
  | [] =>
    match ts with
    | .closeArray :: rest => .ok (acc, rest)
    | _ => .error .malformed
  | f :: fs =>
    match isFirst, ts with
    | _, .closeArray :: _ =>
      if f.presence = .defaulted then items fs isFirst acc ts else .error .mismatch
    | true, ts => next f fs acc ts
    | false, .comma :: .closeArray :: _ => .error .malformed
    | false, .comma :: rest => next f fs acc rest
    | false, _ => .error .malformed
where
  next (f : Field) (fs : List Field) (acc : Members) (ts : List Token) :
      Except ReadFault (Members × List Token) := do
    let (v, rest) ← fieldValue f.shape ts
    items fs false (acc.insert f.name v) rest

/-- The fields that an object held, if none that is required is missing. -/
def complete (fields : List Field) (acc : Members) (rest : List Token) :
    Except ReadFault (Members × List Token) :=
  if fields.all fun f => f.presence ≠ .required || (Members.get? acc f.name).isSome then
    .ok (acc, rest)
  else .error .mismatch

/-- The members of an object from a name on. Every member takes at least one token, so the number of
tokens bounds the number of turns. -/
def members (fields : List Field) : Nat → Members → List Token →
    Except ReadFault (Members × List Token)
  | 0, _, _ => .error .malformed
  | turns + 1, acc, .text name :: ts => do
    let (acc, rest) ← member acc name ts
    match rest with
    | .comma :: rest => members fields turns acc rest
    | .closeObject :: rest => complete fields acc rest
    | _ => .error .malformed
  | _ + 1, _, _ => .error .malformed
where
  member (acc : Members) (name : String) (ts : List Token) :
      Except ReadFault (Members × List Token) :=
    match fields.find? (·.name == name) with
    | some f =>
      if (Members.get? acc name).isSome then .error .mismatch
      else match ts with
        | .colon :: rest => do
          let (v, rest) ← fieldValue f.shape rest
          return (acc.insert name v, rest)
        | _ => .error .malformed
    | none =>
      match ts with
      | .colon :: rest =>
        match skip rest with
        | some rest => .ok (acc, rest)
        | none => .error .malformed
      | _ => .error .malformed

end Reader

/-- The record that the tokens begin with, and the tokens behind it. -/
def readRecord (fields : List Field) : List Token → Except ReadFault (Members × List Token)
  | .openObject :: .closeObject :: rest => Reader.complete fields [] rest
  | .openObject :: rest => Reader.members fields rest.length [] rest
  | .openArray :: rest => Reader.items fields true [] rest
  | t :: _ => if ((Manner.keep 0).scalar? t).isSome then .error .mismatch else .error .malformed
  | [] => .error .malformed

end Tenancy.Json
