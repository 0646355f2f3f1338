import Tenancy.Json.Binary64

/-!
# JSON values

Claims, configuration and the contents of resources are data whose shape is not known beforehand, so
they stay JSON values. An object's members are kept in ascending order of their names and a name
occurs once: `Members.insert` keeps it so, and its three lemmas say what looking up sees.
-/

set_option autoImplicit false

namespace Tenancy

namespace Json

/-- A number: a whole number of one word, signed or not, as such; any other in floating point. -/
inductive Number where
  | whole (value : Int)
  | real (value : Binary64)
  deriving DecidableEq, Repr

/-- The least number that is kept whole, that of a signed word. -/
def Number.minWhole : Int := -9223372036854775808

/-- The greatest number that is kept whole, that of an unsigned word. -/
def Number.maxWhole : Int := 18446744073709551615

end Json

/-- A JSON value. -/
inductive Json where
  | null
  | bool (value : Bool)
  | number (value : Json.Number)
  | text (value : String)
  | array (items : List Json)
  | object (members : List (String × Json))
  deriving Repr, BEq

namespace Json

/-- Names with their values. -/
abbrev Members := List (String × Json)

namespace Members

/-- The value of a name. -/
def get? (members : Members) (name : String) : Option Json := members.lookup name

/-- The members with one value set, in its place in the order; a value already there is replaced. -/
def insert (members : Members) (name : String) (value : Json) : Members :=
  match members with
  | [] => [(name, value)]
  | (n, v) :: rest =>
    if name < n then (name, value) :: (n, v) :: rest
    else if n = name then (name, value) :: rest
    else (n, v) :: insert rest name value

/-- The members of a list of pairs, a later pair replacing an earlier one of the same name. -/
def ofPairs (pairs : List (String × Json)) : Members :=
  pairs.foldl (fun ms p => ms.insert p.1 p.2) []

@[simp] theorem get?_nil (name : String) : get? [] name = none := rfl

theorem get?_cons (n : String) (v : Json) (rest : Members) (name : String) :
    get? ((n, v) :: rest) name = if name = n then some v else get? rest name := by
  by_cases h : name = n
  · simp [get?, h]
  · have : (name == n) = false := by simp [h]
    simp [get?, List.lookup_cons, this, h]

/-- A name that was set has the value it was set to. -/
theorem get?_insert_self (members : Members) (name : String) (value : Json) :
    (members.insert name value).get? name = some value := by
  induction members with
  | nil => simp [insert, get?_cons]
  | cons p rest ih =>
    obtain ⟨n, v⟩ := p
    unfold insert
    by_cases h1 : name < n
    · simp [h1, get?_cons]
    · by_cases h2 : n = name
      · simp [h2, get?_cons]
      · have h3 : ¬name = n := fun e => h2 e.symm
        simp [h1, h2, h3, get?_cons, ih]

/-- Setting a name leaves all others alone. -/
theorem get?_insert_of_ne (members : Members) {name other : String} (value : Json)
    (h : other ≠ name) : (members.insert name value).get? other = members.get? other := by
  induction members with
  | nil => simp [insert, get?_cons, h]
  | cons p rest ih =>
    obtain ⟨n, v⟩ := p
    unfold insert
    by_cases h1 : name < n
    · simp [h1, get?_cons, h]
    · by_cases h2 : n = name
      · subst h2; simp [get?_cons, h]
      · simp [h1, h2, get?_cons, ih]

end Members

/-- An object with the given members. -/
def ofPairs (pairs : List (String × Json)) : Json := .object (Members.ofPairs pairs)

/-- The value of a member; nothing for what is no object. -/
def member? (j : Json) (name : String) : Option Json :=
  match j with
  | .object members => Members.get? members name
  | _ => none

/-- The text, if the value is one. -/
def asText? : Json → Option String
  | .text s => some s
  | _ => none

/-- A whole number as a value. -/
def ofInt (n : Int) : Json := .number (.whole n)

/-- A count as a value. -/
def ofNat (n : Nat) : Json := .number (.whole n)

/-- A value that may be missing; missing is null. -/
def ofOption {α : Type} (f : α → Json) : Option α → Json
  | some a => f a
  | none => .null

/-- A text that may be missing. -/
def ofText? (s : Option String) : Json := ofOption .text s

end Json

end Tenancy
