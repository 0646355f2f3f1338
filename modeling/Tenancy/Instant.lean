import Tenancy.Text.Blank

/-!
# Moments in time

Registry records carry the moments of their creation and last change. A moment is a count of seconds
from the beginning of 1970 and a fraction in nanoseconds; within a leap second the fraction goes on
above one second.

Moments are read from RFC 3339 text, in a lenient form: the fields may be preceded by white space
and have fewer digits, a blank may stand for the `T`, the offset may lack its colon, and white space
may follow. They are written in UTC with a `Z` and the fewest of zero, three, six or nine decimals
that hold the value.
-/

set_option autoImplicit false

namespace Tenancy

/-- A moment: seconds since 1970 in UTC, and nanoseconds. -/
structure Instant where
  second : Int
  nano : Nat
  deriving DecidableEq, Repr

namespace Instant

instance : Inhabited Instant := ⟨⟨0, 0⟩⟩

/-! ## The calendar -/

/-- Whether a year has a 29th of February. -/
def isLeap (year : Int) : Bool := (year % 4 == 0 && year % 100 != 0) || year % 400 == 0

/-- The number of days of a month. -/
def monthLength (year : Int) (month : Nat) : Nat :=
  if month == 2 then (if isLeap year then 29 else 28)
  else if month == 4 || month == 6 || month == 9 || month == 11 then 30 else 31

/-- The number of a day, counted from the first of January 1970. Years are counted from March, so
that the leap day is the last of its year. -/
def dayNumber (year : Int) (month day : Nat) : Int :=
  let y := if month ≤ 2 then year - 1 else year
  let m := if month ≤ 2 then month + 9 else month - 3
  let era := y / 400
  let yearOfEra := y % 400
  let dayOfYear : Int := ((153 * m + 2) / 5 + (day - 1) : Nat)
  era * 146097 + (yearOfEra * 365 + yearOfEra / 4 - yearOfEra / 100 + dayOfYear) - 719468

/-- The year, month and day of a day number. -/
def dateOf (n : Int) : Int × Nat × Nat :=
  let z := n + 719468
  let era := z / 146097
  let doe := z % 146097
  let yoe := (doe - doe / 1460 + doe / 36524 - doe / 146096) / 365
  let doy := (doe - (365 * yoe + yoe / 4 - yoe / 100)).toNat
  let mp := (5 * doy + 2) / 153
  let day := doy - (153 * mp + 2) / 5 + 1
  let month := if mp < 10 then mp + 3 else mp - 9
  (yoe + era * 400 + (if month ≤ 2 then 1 else 0), month, day)

/-! ## Writing -/

/-- A number with zeros in front up to a width. -/
def padded (width n : Nat) : List Char :=
  let digits := Nat.toDigits 10 n
  List.replicate (width - digits.length) '0' ++ digits

/-- A year: four digits, or a sign and at least four outside the years 0 to 9999. -/
def yearText (y : Int) : List Char :=
  if 0 ≤ y ∧ y ≤ 9999 then padded 4 y.toNat
  else (if y < 0 then '-' else '+') :: padded 4 y.natAbs

/-- The decimals of a fraction, the fewest of none, three, six or nine. -/
def fractionText (nano : Nat) : List Char :=
  if nano = 0 then []
  else if nano % 1000000 = 0 then '.' :: padded 3 (nano / 1000000)
  else if nano % 1000 = 0 then '.' :: padded 6 (nano / 1000)
  else '.' :: padded 9 nano

/-- The moment in UTC. -/
def render (t : Instant) : String :=
  let day := t.second / 86400
  let ofDay := (t.second % 86400).toNat
  let (year, month, dom) := dateOf day
  let billion := 1000000000
  let leap := if billion ≤ t.nano then 1 else 0
  String.ofList (yearText year ++ '-' :: padded 2 month ++ '-' :: padded 2 dom ++ 'T' ::
    padded 2 (ofDay / 3600) ++ ':' :: padded 2 (ofDay / 60 % 60) ++ ':' ::
    padded 2 (ofDay % 60 + leap) ++ fractionText (t.nano - leap * billion) ++ ['Z'])

/-- The moment to the microsecond, as databases keep it; a leap second is the second after it. -/
def toMicroseconds (t : Instant) : Instant :=
  ⟨t.second + t.nano / 1000000000, t.nano % 1000000000 / 1000 * 1000⟩

/-! ## Reading -/

/-- The value of a run of digits. -/
def digitsValue (cs : List Char) : Nat := cs.foldl (fun acc c => acc * 10 + (c.toNat - 48)) 0

/-- A number of at least one and at most `width` digits, and what follows it. -/
def number? (width : Nat) (cs : List Char) : Option (Nat × List Char) :=
  let digits := (cs.take width).takeWhile Char.isDigit
  if digits = [] then none else some (digitsValue digits, cs.drop digits.length)

/-- A field of a date or time between two bounds, white space in front of it passed over. -/
def field? (width low high : Nat) (cs : List Char) : Option (Nat × List Char) := do
  let (n, rest) ← number? width (Text.dropBlanks cs)
  if low ≤ n ∧ n ≤ high then some (n, rest) else none

/-- The first year that a moment can lie in. -/
def firstYear : Int := -262143

/-- The last year that a moment can lie in. -/
def lastYear : Int := 262142

/-- Whether a second lies in the years of the calendar, counted in UTC. -/
def inCalendar (second : Int) : Bool :=
  dayNumber firstYear 1 1 * 86400 ≤ second && second < dayNumber (lastYear + 1) 1 1 * 86400

/-- A year: up to four digits, or any number of them behind a sign. -/
def year? (cs : List Char) : Option (Int × List Char) :=
  let cs := Text.dropBlanks cs
  let (width, sign, cs) : Nat × Int × List Char := match cs with
    | '-' :: rest => (rest.length, -1, rest)
    | '+' :: rest => (rest.length, 1, rest)
    | _ => (4, 1, cs)
  match number? width cs with
  | some (n, rest) =>
    let year := sign * (n : Int)
    if firstYear ≤ year ∧ year ≤ lastYear then some (year, rest) else none
  | none => none

/-- What follows a separator, white space in front of it passed over. -/
def after? (c : Char) (cs : List Char) : Option (List Char) :=
  match Text.dropBlanks cs with
  | d :: rest => if d = c then some rest else none
  | [] => none

/-- The nanoseconds of a fraction; decimals beyond the ninth do not count. -/
def fraction? (cs : List Char) : Option (Nat × List Char) :=
  match cs with
  | '.' :: rest =>
    let digits := rest.takeWhile Char.isDigit
    let kept := digits.take 9
    if digits = [] then none
    else some (digitsValue kept * Nat.pow 10 (9 - kept.length), rest.drop digits.length)
  | _ => some (0, cs)

/-- Two digits in a row. -/
def twoDigits? (cs : List Char) : Option (Nat × List Char) :=
  match cs with
  | a :: b :: rest => if a.isDigit && b.isDigit then some (digitsValue [a, b], rest) else none
  | _ => none

/-- The seconds of an offset from UTC: a sign, hours and minutes. -/
def signedOffset? (sign : Int) (cs : List Char) : Option (Int × List Char) := do
  let (hours, rest) ← twoDigits? cs
  let (minutes, rest) ← twoDigits? (rest.dropWhile fun c => c == ':' || Text.isBlank c)
  if minutes < 60 ∧ hours < 24 then
    some (sign * ((hours * 3600 + minutes * 60 : Nat) : Int), rest)
  else none

/-- The seconds of an offset from UTC, which may be named instead. -/
def offset? (cs : List Char) : Option (Int × List Char) :=
  if (cs.take 3).map Char.toLower = ['u', 't', 'c'] then some (0, cs.drop 3)
  else match cs with
    | c :: rest =>
      if c == 'Z' || c == 'z' then some (0, rest)
      else if c == '+' then signedOffset? 1 rest
      else if c == '-' || c.toNat == 0x2212 then signedOffset? (-1) rest
      else none
    | [] => none

/-- What follows the mark between date and time. -/
def afterMark? : List Char → Option (List Char)
  | c :: rest => if c == 'T' || c == 't' || c == ' ' then some rest else none
  | [] => none

/-- The moment that a text tells. The sixtieth second is a leap second. Both the date that is written
and the date in UTC must lie in the calendar. -/
def parse (s : String) : Option Instant := do
  let (year, rest) ← year? s.toList
  let (month, rest) ← field? 2 1 12 (← after? '-' rest)
  let (day, rest) ← field? 2 1 31 (← after? '-' rest)
  if monthLength year month < day then none
  let (hour, rest) ← field? 2 0 23 (← afterMark? rest)
  let (minute, rest) ← field? 2 0 59 (← after? ':' rest)
  let (second, rest) ← field? 2 0 60 (← after? ':' rest)
  let (nano, rest) ← fraction? rest
  let (offset, rest) ← offset? (Text.dropBlanks rest)
  if Text.dropBlanks rest ≠ [] then none
  let leap := if second = 60 then 1 else 0
  let ofDay : Int := (hour * 3600 + minute * 60 + (second - leap) : Nat)
  let second := dayNumber year month day * 86400 + ofDay - offset
  if inCalendar second then some ⟨second, nano + leap * 1000000000⟩ else none

end Instant

end Tenancy
