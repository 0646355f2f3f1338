import Tenancy.Text.Percent

/-!
# Uniform resource locators

A locator has a scheme, an authority (who, at which host and port) unless it has none, a path, and
perhaps a query and a fragment. All parts are kept as they are written, that is, percent-encoded
where they have to be; `render` puts them together again. `Url.Parser` is the way in.

Each part has its own set of octets that cannot stand for themselves, given here by the predicate of
those that can.
-/

set_option autoImplicit false

namespace Tenancy.Net

/-- Who is called, and where. A host that is empty is none. -/
structure Authority where
  username : List Char
  password : Option (List Char)
  host : List Char
  port : Option Nat
  deriving DecidableEq, Repr

/-- A locator, by parts. -/
structure Url where
  scheme : List Char
  authority : Option Authority
  path : List Char
  query : Option (List Char)
  fragment : Option (List Char)
  deriving DecidableEq, Repr

namespace Url

/-! ## What stands for itself -/

/-- Octets that show: no controls, no DEL, nothing beyond ASCII. -/
def shows (b : UInt8) : Bool := 0x20 ≤ b && b ≤ 0x7E

/-- Whether an octet shows and is none of the given characters. -/
def showsBut (marks : List Char) (b : UInt8) : Bool :=
  shows b && !marks.contains (Char.ofNat b.toNat)

/-- The backquote. -/
def backquote : Char := Char.ofNat 0x60

/-- What stands for itself in a fragment. -/
def inFragment : UInt8 → Bool := showsBut [' ', '"', '<', '>', backquote]

/-- What stands for itself in a query; an apostrophe does not where the scheme is special. -/
def inQuery (special : Bool) (b : UInt8) : Bool :=
  showsBut [' ', '"', '#', '<', '>'] b && !(special && b == 0x27)

/-- The marks that do not stand for themselves in a path. -/
def pathMarks : List Char := [' ', '"', '#', '<', '>', '?', backquote, '\x7b', '\x7d']

/-- What stands for itself in a path. -/
def inPath : UInt8 → Bool := showsBut pathMarks

/-- What stands for itself in a user name or password. -/
def inUserinfo : UInt8 → Bool :=
  showsBut (pathMarks ++ ['/', ':', ';', '=', '@', '[', '\\', ']', '^', '|'])

/-! ## Schemes -/

/-- The special schemes, with the ports that go without saying. -/
def specialSchemes : List (String × Option Nat) :=
  [("http", some 80), ("https", some 443), ("ws", some 80), ("wss", some 443), ("ftp", some 21),
    ("file", none)]

/-- Whether a scheme is special: a backslash is a slash then, and there is always a path. -/
def isSpecial (scheme : List Char) : Bool :=
  specialSchemes.any fun s => s.1.toList == scheme

/-- The port that goes without saying. -/
def defaultPort (scheme : List Char) : Option Nat :=
  (specialSchemes.find? fun s => s.1.toList == scheme).bind Prod.snd

/-! ## Putting the parts together -/

/-- The authority behind its two slashes. -/
def renderAuthority (a : Authority) : List Char :=
  let password := match a.password with
    | some p => ':' :: p
    | none => []
  let user := a.username ++ password
  let port := match a.port with
    | some n => ':' :: Nat.toDigits 10 n
    | none => []
  user ++ (if user = [] then [] else ['@']) ++ a.host ++ port

/-- The path. Without an authority, a path that begins with two slashes is kept from being read as
one by a dot segment in front. -/
def renderPath (u : Url) : List Char :=
  match u.authority, u.path with
  | none, '/' :: '/' :: _ => '/' :: '.' :: u.path
  | _, _ => u.path

/-- The locator as text. -/
def renderChars (u : Url) : List Char :=
  let authority := match u.authority with
    | some a => '/' :: '/' :: renderAuthority a
    | none => []
  let query := match u.query with
    | some q => '?' :: q
    | none => []
  let fragment := match u.fragment with
    | some f => '#' :: f
    | none => []
  u.scheme ++ ':' :: authority ++ u.renderPath ++ query ++ fragment

/-- The locator as text. -/
def render (u : Url) : String := String.ofList u.renderChars

/-- The locator with another query, percent-encoded where it has to be. -/
def withQuery (u : Url) (query : List Char) : Url :=
  { u with query := some (Text.Percent.encode (inQuery (isSpecial u.scheme)) query) }

end Url

end Tenancy.Net
