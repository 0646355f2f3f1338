import Tenancy.Json.Basic
import Tenancy.Text.Natural

/-!
# The tokens of a JSON document

`tokens` cuts a text into tokens in one pass over its characters. The last token is `bad` where the
text stops being JSON, so a reader that works from left to right meets that fault exactly when it
gets there and not before.

Two kinds of token are well formed and yet stand for nothing: a number too large for floating point,
and a string that escapes half of a surrogate pair. They are faults where a value is wanted and no
faults where it is skipped, so they are tokens of their own.
-/

set_option autoImplicit false

namespace Tenancy.Json

/-- A token. -/
inductive Token where
  | openArray
  | closeArray
  | openObject
  | closeObject
  | comma
  | colon
  | null
  | bool (value : Bool)
  | number (value : Number)
  | text (value : String)
  | hugeNumber
  | loneSurrogate
  | bad
  deriving DecidableEq, Repr

/-! ## Numbers -/

/-- The parts of a number as it is written, each run of digits with the last digit first. -/
structure Numeral where
  negative : Bool
  whole : List Char
  fraction : List Char
  powerNegative : Bool
  power : List Char
  isWhole : Bool
  deriving DecidableEq, Repr

namespace Numeral

/-- What the next character may be. -/
inductive Phase where
  | minus
  | zero
  | whole
  | point
  | fraction
  | mark
  | markSign
  | power
  deriving DecidableEq, Repr

/-- The value of a digit. -/
def digitValue (c : Char) : Nat := c.toNat - 48

/-- A significand of one word: digits are added while they fit, and the number of digits left over
is told. -/
def fill (acc : Nat) : List Char → Nat × Nat
  | [] => (acc, 0)
  | c :: cs =>
    let next := acc * 10 + digitValue c
    if next ≤ Text.Natural.max64 then fill next cs else (acc, cs.length + 1)

/-- The value of a run of digits. -/
def natOf (cs : List Char) : Nat := cs.foldl (fun acc c => acc * 10 + digitValue c) 0

/-- The number that the parts stand for, if it is in range. Digits that do not fit into the
significand count only by their place. -/
def value? (n : Numeral) : Option Number :=
  let (s, left) := fill 0 n.whole.reverse
  if n.isWhole && left == 0 then
    if n.negative then
      if s = 0 then some (.real (Binary64.zero true))
      else if (s : Int) ≤ -Number.minWhole then some (.whole (-(s : Int)))
      else (Binary64.ofScaled true s 0).map .real
    else some (.whole s)
  else
    let digits := n.fraction.reverse
    let (s, unused) := fill s digits
    let power : Int := natOf n.power.reverse
    let exponent : Int := (left : Int) - ((digits.length - unused : Nat) : Int) +
      (if n.powerNegative then -power else power)
    (Binary64.ofScaled n.negative s exponent).map .real

/-- The token of a complete number. -/
def token (n : Numeral) : Token :=
  match n.value? with
  | some v => .number v
  | none => .hugeNumber

/-- Whether a number may end here. -/
def Phase.mayEnd : Phase → Bool
  | .zero => true
  | .whole => true
  | .fraction => true
  | .power => true
  | _ => false

/-- The number with one more character, if it can go on so. A leading zero stands alone. -/
def push (n : Numeral) (p : Phase) (c : Char) : Option (Numeral × Phase) :=
  match p with
  | .minus =>
    if c == '0' then some ({ n with whole := [c] }, .zero)
    else if c.isDigit then some ({ n with whole := [c] }, .whole) else none
  | .zero => afterWhole n c
  | .whole => if c.isDigit then some ({ n with whole := c :: n.whole }, .whole) else afterWhole n c
  | .point =>
    if c.isDigit then some ({ n with fraction := [c], isWhole := false }, .fraction) else none
  | .fraction =>
    if c.isDigit then some ({ n with fraction := c :: n.fraction }, .fraction)
    else afterFraction n c
  | .mark =>
    if c == '+' then some (n, .markSign)
    else if c == '-' then some ({ n with powerNegative := true }, .markSign)
    else firstPower n c
  | .markSign => firstPower n c
  | .power => if c.isDigit then some ({ n with power := c :: n.power }, .power) else none
where
  afterFraction (n : Numeral) (c : Char) : Option (Numeral × Phase) :=
    if c == 'e' || c == 'E' then some ({ n with isWhole := false }, .mark) else none
  afterWhole (n : Numeral) (c : Char) : Option (Numeral × Phase) :=
    if c == '.' then some (n, .point) else afterFraction n c
  firstPower (n : Numeral) (c : Char) : Option (Numeral × Phase) :=
    if c.isDigit then some ({ n with power := [c] }, .power) else none

/-- Whether a character makes what was read so far no number at all, instead of ending it: a digit
behind a leading zero. -/
def spoils (p : Phase) (c : Char) : Bool := p == .zero && c.isDigit

end Numeral

/-! ## Strings -/

/-- Where a reader of a string stands: among plain characters, behind a backslash, or inside the
four digits of an escaped code unit. -/
inductive Quoted.Place where
  | plain
  | escape
  | unit (digitsLeft : Nat) (acc : Nat)
  deriving DecidableEq, Repr

/-- A string as read so far, the last character first; `high` is the first half of a surrogate pair
that waits for its second, and `lone` says that some half never met its other. -/
structure Quoted where
  done : List Char
  high : Option Nat
  lone : Bool
  place : Quoted.Place
  deriving DecidableEq, Repr

namespace Quoted

/-- The value of a hexadecimal digit. -/
def hexValue? (c : Char) : Option Nat :=
  if c.isDigit then some (c.toNat - 48)
  else if 'a' ≤ c && c ≤ 'f' then some (c.toNat - 87)
  else if 'A' ≤ c && c ≤ 'F' then some (c.toNat - 55)
  else none

/-- A character is added; a half of a pair that was waiting stays alone. -/
def push (q : Quoted) (c : Char) : Quoted :=
  { done := c :: q.done, high := none, lone := q.lone || q.high.isSome, place := .plain }

/-- An escaped code unit is added. -/
def pushUnit (q : Quoted) (u : Nat) : Quoted :=
  if 0xD800 ≤ u && u ≤ 0xDBFF then
    { q with high := some u, lone := q.lone || q.high.isSome, place := .plain }
  else if 0xDC00 ≤ u && u ≤ 0xDFFF then
    match q.high with
    | some h =>
      let c := Char.ofNat (0x10000 + (h - 0xD800) * 0x400 + (u - 0xDC00))
      { q with done := c :: q.done, high := none, place := .plain }
    | none => { q with lone := true, place := .plain }
  else q.push (Char.ofNat u)

/-- The character that a letter behind a backslash stands for. -/
def escaped? (c : Char) : Option Char :=
  if c == '"' then some '"'
  else if c == '\\' then some '\\'
  else if c == '/' then some '/'
  else if c == 'b' then some '\x08'
  else if c == 'f' then some '\x0c'
  else if c == 'n' then some '\n'
  else if c == 'r' then some '\r'
  else if c == 't' then some '\t'
  else none

/-- The token of a complete string. -/
def token (q : Quoted) : Token :=
  if q.lone || q.high.isSome then .loneSurrogate else .text (String.ofList q.done.reverse)

/-- What comes of one more character: the string goes on, it ends, or it is none. -/
inductive Step where
  | more (q : Quoted)
  | done (t : Token)
  | bad

/-- One character of a string. -/
def step (q : Quoted) (c : Char) : Step :=
  match q.place with
  | .plain =>
    if c == '"' then .done q.token
    else if c == '\\' then .more { q with place := .escape }
    else if c.toNat < 0x20 then .bad
    else .more (q.push c)
  | .escape =>
    if c == 'u' then .more { q with place := .unit 4 0 }
    else match escaped? c with
      | some d => .more (q.push d)
      | none => .bad
  | .unit left acc =>
    match hexValue? c with
    | none => .bad
    | some d =>
      let acc := acc * 16 + d
      if left ≤ 1 then .more (q.pushUnit acc) else .more { q with place := .unit (left - 1) acc }

end Quoted

/-! ## The lexer -/

/-- What the lexer is in the middle of. -/
inductive Lexer where
  | ground
  | word (rest : List Char) (token : Token)
  | numeral (n : Numeral) (phase : Numeral.Phase)
  | quoted (q : Quoted)
  deriving DecidableEq, Repr

namespace Lexer

/-- Whether a character may stand between tokens. -/
def isGap (c : Char) : Bool := c == ' ' || c == '\t' || c == '\n' || c == '\r'

/-- The first character of a token, or a gap. -/
def begin (c : Char) : List Token × Option Lexer :=
  if isGap c then ([], some .ground)
  else if c == '[' then ([.openArray], some .ground)
  else if c == ']' then ([.closeArray], some .ground)
  else if c == '\x7b' then ([.openObject], some .ground)
  else if c == '\x7d' then ([.closeObject], some .ground)
  else if c == ',' then ([.comma], some .ground)
  else if c == ':' then ([.colon], some .ground)
  else if c == '"' then ([], some (.quoted ⟨[], none, false, .plain⟩))
  else if c == 'n' then ([], some (.word ['u', 'l', 'l'] .null))
  else if c == 't' then ([], some (.word ['r', 'u', 'e'] (.bool true)))
  else if c == 'f' then ([], some (.word ['a', 'l', 's', 'e'] (.bool false)))
  else if c == '-' then ([], some (.numeral ⟨true, [], [], false, [], true⟩ .minus))
  else if c == '0' then ([], some (.numeral ⟨false, [c], [], false, [], true⟩ .zero))
  else if c.isDigit then ([], some (.numeral ⟨false, [c], [], false, [], true⟩ .whole))
  else ([.bad], none)

/-- One character: the tokens that it completes, and where the lexer stands after it unless it has
met a fault. A number ends at the first character that cannot belong to it. -/
def step : Lexer → Char → List Token × Option Lexer
  | .ground, c => begin c
  | .word [] t, c => (t :: (begin c).1, (begin c).2)
  | .word (w :: ws) t, c =>
    if c ≠ w then ([.bad], none)
    else if ws = [] then ([t], some .ground)
    else ([], some (.word ws t))
  | .numeral n p, c =>
    match n.push p c with
    | some (n, p) => ([], some (.numeral n p))
    | none =>
      if p.mayEnd && !Numeral.spoils p c then (n.token :: (begin c).1, (begin c).2)
      else ([.bad], none)
  | .quoted q, c =>
    match q.step c with
    | .more q => ([], some (.quoted q))
    | .done t => ([t], some .ground)
    | .bad => ([.bad], none)

/-- What is still to come out when the text ends. -/
def atEnd : Lexer → List Token
  | .ground => []
  | .word [] t => [t]
  | .word _ _ => [.bad]
  | .numeral n p => if p.mayEnd then [n.token] else [.bad]
  | .quoted _ => [.bad]

/-- The tokens of a text, from a state on. -/
def run : Lexer → List Char → List Token
  | l, [] => l.atEnd
  | l, c :: cs =>
    match step l c with
    | (out, some l) => out ++ run l cs
    | (out, none) => out

end Lexer

/-- The tokens of a text. -/
def tokens (cs : List Char) : List Token := Lexer.run .ground cs

end Tenancy.Json
