import Tenancy.Net.Url.Host

/-!
# Reading locators

A text is read as browsers read it: white space and controls around it and tabs and line ends inside
it do not count, letters of the scheme may be capitals, dots in the path are resolved, and what
cannot stand for itself is percent-encoded. Only absolute locators are read; there is nothing that a
relative one could be relative to.
-/

set_option autoImplicit false

namespace Tenancy.Net.Url

open Text

/-! ## Before anything else -/

/-- Whether a character is a control or a space. -/
def isEdge (c : Char) : Bool := c.toNat ≤ 0x20

/-- The text without controls and spaces around it, and without tabs and line ends in it. -/
def cleaned (cs : List Char) : List Char :=
  let trimmed := ((cs.dropWhile isEdge).reverse.dropWhile isEdge).reverse
  trimmed.filter fun c => c != '\t' && c != '\n' && c != '\r'

/-- Whether a character may stand in a scheme. -/
def isSchemeChar (c : Char) : Bool := c.isAlphanum || c == '+' || c == '-' || c == '.'

/-- The scheme in lower case, and what follows its colon. -/
def cutScheme (cs : List Char) : Option (List Char × List Char) :=
  match cutFirst ':' cs with
  | some (scheme, rest) =>
    match scheme with
    | c :: _ =>
      if c.isAlpha && scheme.all isSchemeChar then some (scheme.map Char.toLower, rest) else none
    | [] => none
  | none => none

/-! ## The authority -/

/-- Whether a character ends the authority. -/
def endsAuthority (special : Bool) (c : Char) : Bool :=
  c == '/' || c == '?' || c == '#' || (special && c == '\\')

/-- The user name and password of an authority, and what follows their at sign, which is the last
one. -/
def readUserinfo (special : Bool) (cs : List Char) :
    Except Fault (List Char × Option (List Char) × List Char) :=
  match cutLast '@' (cs.takeWhile fun c => !endsAuthority special c) with
  | none => .ok ([], none, cs)
  | some (user, _) =>
    let rest := cs.drop (user.length + 1)
    if user = [] then
      match rest with
      | c :: _ => if endsAuthority special c then .error .emptyHost else .ok ([], none, rest)
      | [] => .ok ([], none, rest)
    else
      let encode := Percent.encode inUserinfo
      match cutFirst ':' user with
      | none => .ok (encode user, none, rest)
      | some (name, []) => .ok (encode name, none, rest)
      | some (name, password) => .ok (encode name, some (encode password), rest)

/-- The length of the host: it ends where the authority ends or at a colon outside brackets. -/
def hostLength (special : Bool) (inBrackets : Bool) : List Char → Nat
  | [] => 0
  | c :: cs =>
    if endsAuthority special c || (c == ':' && !inBrackets) then 0
    else
      let inBrackets := if c == '[' then true else if c == ']' then false else inBrackets
      hostLength special inBrackets cs + 1

/-- The port, and what follows it. No digits are no port, and neither is the scheme's own. -/
def readPort (own : Option Nat) (cs : List Char) : Except Fault (Option Nat × List Char) :=
  let digits := cs.takeWhile Char.isDigit
  let rest := cs.drop digits.length
  let n := digits.foldl (fun acc c => acc * 10 + (c.toNat - 48)) 0
  if 65535 < n then .error .invalidPort
  else
    let value := if digits = [] ∨ some n = own then none else some n
    match rest with
    | [] => .ok (value, rest)
    | c :: _ => if endsAuthority true c then .ok (value, rest) else .error .invalidPort

/-- The authority, and what follows it. A host may be empty only where the scheme is not special
and neither user nor port is given. -/
def readAuthority (scheme : List Char) (cs : List Char) : Except Fault (Authority × List Char) := do
  let special := isSpecial scheme
  let (username, password, rest) ← readUserinfo special cs
  let length := hostLength special false rest
  let raw := rest.take length
  let rest := rest.drop length
  if special ∧ raw = [] then .error .emptyHost
  let host ← if special then namedHost raw else opaqueHost raw
  match rest with
  | ':' :: rest =>
    if host = [] then .error .emptyHost
    let (number, rest) ← readPort (defaultPort scheme) rest
    return (⟨username, password, host, number⟩, rest)
  | _ =>
    if host = [] ∧ (username ≠ [] ∨ password ≠ none) then .error .emptyHost
    return (⟨username, password, host, none⟩, rest)

/-! ## The path -/

/-- A segment with its encoded dots written out. -/
def dotted (segment : List Char) : List Char :=
  match segment with
  | '%' :: '2' :: e :: rest =>
    if e == 'e' || e == 'E' then '.' :: dotted rest else '%' :: '2' :: e :: dotted rest
  | c :: rest => c :: dotted rest
  | [] => []

/-- Whether a segment stands for the place it is in. -/
def isDot (segment : List Char) : Bool := dotted segment == ['.']

/-- Whether a segment stands for the place above. -/
def isDoubleDot (segment : List Char) : Bool := dotted segment == ['.', '.']

/-- Whether a segment names a drive: a letter and a colon or bar, and nothing behind them or a
backslash. Such a segment is never left. -/
def isDrive (segment : List Char) : Bool :=
  match segment with
  | c :: m :: rest =>
    c.isAlpha && (m == ':' || m == '|') && (rest = [] || rest.head? == some '\\')
  | _ => false

/-- The segments without the last one, unless that names a drive; the last segment stands first. A
path without a slash in front of it keeps its first segment. -/
def leave (rooted : Bool) (done : List (List Char)) : List (List Char) :=
  match done with
  | s :: rest => if isDrive s || (rest = [] && !rooted) then done else rest
  | [] => []

/-- The segments with dots resolved; the last finished segment stands first in `done`. A path that
ends in dots ends in a slash. -/
def resolveDots (rooted : Bool) (done : List (List Char)) : List (List Char) → List (List Char)
  | [] => done.reverse
  | [s] =>
    if isDoubleDot s then ([] :: leave rooted done).reverse
    else if isDot s then ([] :: done).reverse
    else (s :: done).reverse
  | s :: rest =>
    if isDoubleDot s then resolveDots rooted (leave rooted done) rest
    else if isDot s then resolveDots rooted done rest
    else resolveDots rooted (s :: done) rest

/-- The segments of a path, percent-encoded. -/
def segmentsOf (special : Bool) (cs : List Char) : List (List Char) :=
  let slashed := if special then cs.map fun c => if c == '\\' then '/' else c else cs
  pieces '/' (Percent.encode inPath slashed)

/-- A path that begins with a slash, from what stands behind that slash. -/
def rootedPath (special : Bool) (cs : List Char) : List Char :=
  '/' :: ['/'].intercalate (resolveDots true [] (segmentsOf special cs))

/-- The path behind an authority. Where the scheme is special there is always one. -/
def pathAfterAuthority (special : Bool) (cs : List Char) : List Char :=
  match cs with
  | [] => if special then ['/'] else []
  | c :: rest =>
    if c == '/' || (special && c == '\\') then rootedPath special rest else rootedPath special cs

/-! ## The whole -/

/-- What stands behind the authority, cut at its fragment and then at its query. -/
def cutTail (cs : List Char) : List Char × Option (List Char) × Option (List Char) :=
  let (front, fragment) := match cutFirst '#' cs with
    | some (a, b) => (a, some b)
    | none => (cs, none)
  match cutFirst '?' front with
  | some (a, b) => (a, some b, fragment)
  | none => (front, none, fragment)

/-- The locator of a scheme and authority, what stands behind them being a path read by `path`, a
query and a fragment. -/
def assemble (scheme : List Char) (authority : Option Authority) (path : List Char → List Char)
    (cs : List Char) : Url :=
  let (front, query, fragment) := cutTail cs
  ⟨scheme, authority, path front, query.map (Percent.encode (inQuery (isSpecial scheme))),
    fragment.map (Percent.encode inFragment)⟩

/-- The locator of a scheme, from its authority on. -/
def hierarchy (scheme : List Char) (cs : List Char) : Except Fault Url := do
  let (a, rest) ← readAuthority scheme cs
  return assemble scheme (some a) (pathAfterAuthority (isSpecial scheme)) rest

/-! ## Files -/

/-- Whether a character is a slash, either way. -/
def isSlash (c : Char) : Bool := c == '/' || c == '\\'

/-- A drive with its colon, whichever mark it was written with; any other segment as it is. -/
def withColon (segment : List Char) : List Char :=
  match segment with
  | [c, _] => if isDrive segment then [c, ':'] else segment
  | _ => segment

/-- The segments of a file's path. -/
def fileSegments (cs : List Char) : List (List Char) := (segmentsOf true cs).map withColon

/-- The path of a file, which begins with one slash. -/
def filePath (rooted : Bool) (cs : List Char) : List Char :=
  '/' :: (['/'].intercalate (resolveDots rooted [] (fileSegments cs))).dropWhile (· == '/')

/-- The locator of a file at a host, from its path on. A drive is at no host. -/
def fileAt (scheme host : List Char) (rooted : Bool) (cs : List Char) : Url :=
  let host := if (fileSegments (cutTail cs).1).any isDrive then [] else host
  assemble scheme (some ⟨[], none, host, none⟩) (filePath rooted) cs

/-- The text without its first slash. -/
def behindSlash (cs : List Char) : List Char :=
  match cs with
  | c :: rest => if isSlash c then rest else cs
  | [] => []

/-- The locator of a file, from what stands behind its scheme: two slashes come before a host, which
may be empty and is so if it is the local one, and one slash or none before a path. A drive in the
place of the host belongs to the path. -/
def fileHierarchy (scheme : List Char) (cs : List Char) : Except Fault Url :=
  match cs with
  | a :: b :: rest =>
    if !isSlash a then .ok (fileAt scheme [] true cs)
    else if !isSlash b then .ok (fileAt scheme [] false (b :: rest))
    else
      let raw := rest.takeWhile fun c => !endsAuthority true c
      if raw = [] then .ok (fileAt scheme [] true (behindSlash rest))
      else if isDrive raw then .ok (fileAt scheme [] true rest)
      else do
        let host ← namedHost raw
        let host := if host = "localhost".toList then [] else host
        return fileAt scheme host true (behindSlash (rest.drop raw.length))
  | _ => .ok (fileAt scheme [] true (behindSlash cs))

/-! ## Any scheme -/

/-- The locator of a scheme and what follows its colon. -/
def ofParts (scheme : List Char) (cs : List Char) : Except Fault Url :=
  if scheme = "file".toList then fileHierarchy scheme cs
  else if isSpecial scheme then hierarchy scheme (cs.dropWhile fun c => c == '/' || c == '\\')
  else match cs with
    | '/' :: '/' :: rest => hierarchy scheme rest
    | '/' :: _ => .ok (assemble scheme none (fun front => rootedPath false (front.drop 1)) cs)
    | _ => .ok (assemble scheme none (Percent.encode shows) cs)

/-- The locator that a text is. -/
def parse (s : String) : Except Fault Url :=
  match cutScheme (cleaned s.toList) with
  | none => .error .noScheme
  | some (scheme, rest) => ofParts scheme rest

end Tenancy.Net.Url
