/-!
# Tenants by name

A tenant is known by its id. An id may come from anywhere, a request header included, so the type
holds any text; `TenantId.isValidText` is the rule that ids from host names and claims, registered
ids, schema names and configured defaults obey: two to fifty ASCII letters, digits, hyphens and
underscores, the whole text and nothing else.
-/

set_option autoImplicit false

namespace Tenancy

/-- The id of a tenant, valid or not. -/
structure TenantId where
  text : String
  deriving DecidableEq, Repr

namespace TenantId

instance : ToString TenantId := ⟨TenantId.text⟩

/-- Ids are ordered as their UTF-8 octets are, which is the order of their characters. -/
instance : Ord TenantId := ⟨fun a b => compareOfLessAndEq a.text b.text⟩

/-- The characters of a valid id. -/
def isIdChar (c : Char) : Bool := c.isAlphanum || c == '_' || c == '-'

/-- Whether the characters are a valid id. -/
def isValidChars (cs : List Char) : Bool :=
  2 ≤ cs.length && cs.length ≤ 50 && cs.all isIdChar

/-- Whether a text is a valid id. -/
def isValidText (s : String) : Bool := isValidChars s.toList

/-- Whether an id is valid. -/
def isValid (t : TenantId) : Bool := isValidText t.text

/-! ## Small facts -/

theorem isValidText_iff {s : String} :
    isValidText s = true ↔
      2 ≤ s.toList.length ∧ s.toList.length ≤ 50 ∧ ∀ c ∈ s.toList, isIdChar c = true := by
  simp [isValidText, isValidChars, and_assoc]

end TenantId

end Tenancy
