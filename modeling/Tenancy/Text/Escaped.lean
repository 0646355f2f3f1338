import Tenancy.Text.Escaped.Table

/-!
# Text in quotes, for reading by people

Log events and some error texts show a text between double quotes, with everything written out that
would not show: the quote and the backslash behind a backslash, tab, line feed, carriage return and
NUL by their letters, and every other hidden character by its code point in braces.
-/

set_option autoImplicit false

namespace Tenancy.Text

namespace Escaped

/-- The lower-case hexadecimal digits of a number. -/
def hexText (n : Nat) : List Char := Nat.toDigits 16 n

/-- How one character stands inside the quotes. -/
def ofChar (c : Char) : List Char :=
  if c == '"' then ['\\', '"']
  else if c == '\\' then ['\\', '\\']
  else if c == '\n' then ['\\', 'n']
  else if c == '\r' then ['\\', 'r']
  else if c == '\t' then ['\\', 't']
  else if c.toNat == 0 then ['\\', '0']
  else if hidden.holds c.toNat then ['\\', 'u', '\x7b'] ++ hexText c.toNat ++ ['\x7d']
  else [c]

end Escaped

/-- The text in double quotes, hidden characters written out. -/
def inQuotes (s : String) : String :=
  String.ofList ('"' :: s.toList.flatMap Escaped.ofChar ++ ['"'])

/-- A list of texts, each in quotes, between brackets. -/
def listInQuotes (texts : List String) : String :=
  "[" ++ ", ".intercalate (texts.map inQuotes) ++ "]"

end Tenancy.Text
