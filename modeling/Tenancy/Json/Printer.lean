import Tenancy.Json.Basic

/-!
# The compact text of a JSON value

No blanks, members in their order. Inside strings the quote, the backslash and the control
characters are escaped, five of these by letter and the others as `\u00xx` in lower case; nothing
else is.
-/

set_option autoImplicit false

namespace Tenancy.Json

/-- How one character stands inside a string. -/
def escape (c : Char) : List Char :=
  if c == '"' then ['\\', '"']
  else if c == '\\' then ['\\', '\\']
  else if c == '\x08' then ['\\', 'b']
  else if c == '\x0c' then ['\\', 'f']
  else if c == '\n' then ['\\', 'n']
  else if c == '\r' then ['\\', 'r']
  else if c == '\t' then ['\\', 't']
  else if c.toNat < 0x20 then
    ['\\', 'u', '0', '0'] ++ [Nat.digitChar (c.toNat / 16), Nat.digitChar (c.toNat % 16)]
  else [c]

/-- A text as a JSON string. -/
def renderText (s : String) : List Char := '"' :: s.toList.flatMap escape ++ ['"']

/-- A number in decimal. -/
def Number.render : Number → List Char
  | .whole n => (toString n).toList
  | .real x => x.render

mutual

/-- The characters of a value. -/
def render : Json → List Char
  | .null => ['n', 'u', 'l', 'l']
  | .bool true => ['t', 'r', 'u', 'e']
  | .bool false => ['f', 'a', 'l', 's', 'e']
  | .number n => n.render
  | .text s => renderText s
  | .array items => '[' :: renderItems items ++ [']']
  | .object members => '\x7b' :: renderMembers members ++ ['\x7d']

/-- The elements of an array, commas between them. -/
def renderItems : List Json → List Char
  | [] => []
  | [j] => render j
  | j :: rest => render j ++ ',' :: renderItems rest

/-- The members of an object, commas between them. -/
def renderMembers : List (String × Json) → List Char
  | [] => []
  | [(k, v)] => renderText k ++ ':' :: render v
  | (k, v) :: rest => renderText k ++ ':' :: render v ++ ',' :: renderMembers rest

end

/-- The compact text of a value. -/
def compact (j : Json) : String := String.ofList (render j)

/-- A value as plain text: a text is itself, null is none, and anything else is its JSON. -/
def plainText? : Json → Option String
  | .null => none
  | .text s => some s
  | j => some j.compact

theorem plainText?_eq_none_iff {j : Json} : j.plainText? = none ↔ j = .null := by
  cases j <;> simp [plainText?]

end Tenancy.Json
