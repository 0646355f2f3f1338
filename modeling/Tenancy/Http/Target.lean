import Tenancy.Text.Percent
import Tenancy.Text.Split

/-!
# Request targets

A request says what it is for: usually a path, perhaps with a query; or a whole locator, whose
authority then names the host; or an authority alone. A fragment is never sent on.
-/

set_option autoImplicit false

namespace Tenancy.Http

open Text

/-- What a request is for. -/
structure Target where
  authority : Option (List Char)
  path : List Char
  query : Option (List Char)
  deriving DecidableEq, Repr

namespace Target

/-- A path with its query, without the fragment. -/
def pathAndQuery (authority : Option (List Char)) (cs : List Char) : Target :=
  let front := upTo '#' cs
  let (path, query) := match cutFirst '?' front with
    | some (a, b) => (a, some b)
    | none => (front, none)
  ⟨authority, if path = [] then ['/'] else path, query⟩

/-- Whether a character may stand in the scheme of a target, which is read more freely than that of
a locator: it may hold a tilde, begin with any of its characters, and be empty. -/
def isSchemeChar (c : Char) : Bool :=
  c.isAlphanum || c == '+' || c == '-' || c == '.' || c == '~'

/-- What follows a scheme and its two slashes. -/
def afterScheme? (cs : List Char) : Option (List Char) :=
  match cutFirst ':' cs with
  | some (scheme, '/' :: '/' :: rest) => if scheme.all isSchemeChar then some rest else none
  | _ => none

/-- The target that the characters say. -/
def ofChars (cs : List Char) : Target :=
  match cs with
  | '/' :: _ => pathAndQuery none cs
  | ['*'] => ⟨none, cs, none⟩
  | _ =>
    match afterScheme? cs with
    | some rest =>
      let authority := rest.takeWhile fun c => c != '/' && c != '?' && c != '#'
      pathAndQuery (some authority) (rest.drop authority.length)
    | none => ⟨some cs, [], none⟩

/-- The host of an authority: without user and port, brackets kept. -/
def hostOf (authority : List Char) : List Char :=
  let place := match cutLast '@' authority with
    | some (_, b) => b
    | none => authority
  if place.head? = some '[' then
    match cutFirst ']' place with
    | some (a, _) => a ++ [']']
    | none => place
  else upTo ':' place

/-- The host that the target names, if it names one. -/
def host? (t : Target) : Option String := t.authority.map fun a => String.ofList (hostOf a)

end Target

end Tenancy.Http
