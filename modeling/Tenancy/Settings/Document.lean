import Tenancy.Json.Reader
import Tenancy.Settings
import Tenancy.Text.Utf8

/-!
# Settings from a document

A document is one JSON record of settings and nothing behind it. Members that are no settings are
passed over; a setting that is given twice makes the document unreadable.
-/

set_option autoImplicit false

namespace Tenancy.Settings

/-- The settings that a text holds, before they are checked. -/
def readDocument? (cs : List Char) : Option Settings :=
  match Json.readRecord fields (Json.tokens cs) with
  | .ok (m, []) => ofMembers? m
  | _ => none

/-- The settings that a text holds, if they can be used. -/
def ofText (cs : List Char) : Except SettingsError Settings :=
  match readDocument? cs with
  | none => .error (.unreadable "not a settings document")
  | some s => (check s).map fun _ => s

/-- The settings that a document's octets hold. A document that is not there, or is not UTF-8, is
unreadable. -/
def ofDocument : Option (List UInt8) → Except SettingsError Settings
  | none => .error (.unreadable "no such document")
  | some bytes =>
    match Text.decode bytes with
    | .error fault => .error (.unreadable fault.message)
    | .ok cs => ofText cs

end Tenancy.Settings
