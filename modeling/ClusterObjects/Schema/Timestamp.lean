import ClusterObjects.Json.Token

/-!
# Points in time

A point in time is written as a date, a time of day and an offset from universal time. Reading is
lenient about blanks, the width of numbers and the letter between date and time; writing gives
universal time in whole seconds.
-/

namespace ClusterObjects

/-- A date and a time of day. A leap second is the second with number 60. -/
structure Timestamp where
  year : Int
  month : Nat
  day : Nat
  hour : Nat
  minute : Nat
  second : Nat
  deriving DecidableEq, Repr

namespace Timestamp

/-- The point from which time is counted. -/
def epoch : Timestamp := ⟨1970, 1, 1, 0, 0, 0⟩

/-- White space between words, in any script. -/
def isSpace (c : Char) : Bool :=
  let n := c.toNat
  (9 ≤ n && n ≤ 13) || n == 0x20 || n == 0x85 || n == 0xA0 || n == 0x1680
    || (0x2000 ≤ n && n ≤ 0x200A) || n == 0x2028 || n == 0x2029 || n == 0x202F || n == 0x205F
    || n == 0x3000

def skipSpace (cs : List Char) : List Char := cs.dropWhile isSpace

/-- A number of one digit at least and `width` digits at most, after blanks. -/
def number? (width : Nat) (cs : List Char) : Option (Nat × List Char) :=
  let cs := skipSpace cs
  let digits := (cs.take width).takeWhile Char.isDigit
  if digits.isEmpty then none
  else some (Numeral.decimalValue digits, cs.drop digits.length)

/-- A year of four digits, or of any number of digits behind a sign. -/
def year? (cs : List Char) : Option (Int × List Char) :=
  match skipSpace cs with
  | '-' :: cs =>
    if cs.head?.any Char.isDigit then
      (number? cs.length cs).map fun (n, cs) ↦ (-(n : Int), cs)
    else none
  | '+' :: cs =>
    if cs.head?.any Char.isDigit then (number? cs.length cs).map fun (n, cs) ↦ ((n : Int), cs)
    else none
  | cs => (number? 4 cs).map fun (n, cs) ↦ ((n : Int), cs)

/-- What follows a character, with blanks around it. -/
def after? (c : Char) (cs : List Char) : Option (List Char) :=
  match skipSpace cs with
  | d :: cs => if d = c then some cs else none
  | [] => none

/-- Skips a decimal fraction. -/
def skipFraction : List Char → Option (List Char)
  | '.' :: cs => if cs.head?.any Char.isDigit then some (cs.dropWhile Char.isDigit) else none
  | cs => some cs

/-- What follows the letter between the date and the time of day. -/
def afterLetter? : List Char → Option (List Char)
  | c :: cs => if c = 'T' ∨ c = 't' ∨ c = ' ' then some cs else none
  | [] => none

def twoDigits? : List Char → Option (Nat × List Char)
  | a :: b :: cs =>
    if a.isDigit ∧ b.isDigit then some (Numeral.decimalValue [a, b], cs) else none
  | _ => none

/-- An offset from universal time in minutes. -/
def offset? (cs : List Char) : Option (Int × List Char) :=
  match cs with
  | c :: rest =>
    if c = 'Z' ∨ c = 'z' then some (0, rest)
    else do
      let negative ←
        if c = '+' then some false else if c = '-' ∨ c = '\u2212' then some true else none
      let (hours, rest) ← twoDigits? rest
      let (minutes, rest) ← twoDigits? (rest.dropWhile fun d ↦ d == ':' || isSpace d)
      if 60 ≤ minutes ∨ 24 ≤ hours then none
      let total : Int := (hours * 60 + minutes : Nat)
      return (if negative then -total else total, rest)
  | [] => none

/-- An offset, or the name of universal time. -/
def zone? (cs : List Char) : Option (Int × List Char) :=
  if (cs.take 3).map Char.toUpper == ['U', 'T', 'C'] then some (0, cs.drop 3) else offset? cs

def isLeapYear (year : Int) : Bool := year % 4 == 0 && (year % 100 != 0 || year % 400 == 0)

def daysInMonth (year : Int) (month : Nat) : Nat :=
  match month with
  | 2 => if isLeapYear year then 29 else 28
  | 4 | 6 | 9 | 11 => 30
  | _ => 31

def isValid (t : Timestamp) : Bool :=
  1 ≤ t.month && t.month ≤ 12 && 1 ≤ t.day && t.day ≤ daysInMonth t.year t.month
    && t.hour < 24 && t.minute < 60 && t.second ≤ 60 && -262143 ≤ t.year && t.year ≤ 262142

/-- The day before. -/
def dayBefore (t : Timestamp) : Timestamp :=
  if 1 < t.day then { t with day := t.day - 1 }
  else if 1 < t.month then
    { t with month := t.month - 1, day := daysInMonth t.year (t.month - 1) }
  else { t with year := t.year - 1, month := 12, day := 31 }

/-- The day after. -/
def dayAfter (t : Timestamp) : Timestamp :=
  if t.day < daysInMonth t.year t.month then { t with day := t.day + 1 }
  else if t.month < 12 then { t with month := t.month + 1, day := 1 }
  else { t with year := t.year + 1, month := 1, day := 1 }

/-- The same point in time with an offset of zero. An offset is shorter than a day. -/
def toUniversal (t : Timestamp) (offset : Int) : Timestamp :=
  let minutes : Int := t.hour * 60 + t.minute - offset
  let within (t : Timestamp) (minutes : Int) : Timestamp :=
    { t with hour := (minutes / 60).toNat, minute := (minutes % 60).toNat }
  if minutes < 0 then within t.dayBefore (minutes + 1440)
  else if 1440 ≤ minutes then within t.dayAfter (minutes - 1440)
  else within t minutes

/-- The point in time that a text names, in universal time. -/
def parse? (text : String) : Option Timestamp := do
  let (year, cs) ← year? text.toList
  let (month, cs) ← number? 2 (← after? '-' cs)
  let (day, cs) ← number? 2 (← after? '-' cs)
  let (hour, cs) ← number? 2 (← afterLetter? cs)
  let (minute, cs) ← number? 2 (← after? ':' cs)
  let (second, cs) ← number? 2 (← after? ':' cs)
  let (offset, cs) ← zone? (skipSpace (← skipFraction cs))
  let t : Timestamp := { year, month, day, hour, minute, second }
  -- At either end of the calendar universal time may have no day for the point.
  if (skipSpace cs).isEmpty && t.isValid && (t.toUniversal offset).isValid then
    some (t.toUniversal offset)
  else none

/-- A number with zeros in front up to a width. -/
def padded (width n : Nat) : String :=
  let digits := Nat.toDigits 10 n
  String.ofList (List.replicate (width - digits.length) '0' ++ digits)

/-- Years outside of four digits carry a sign. -/
def yearText (year : Int) : String :=
  if 0 ≤ year ∧ year ≤ 9999 then padded 4 year.toNat
  else if 0 ≤ year then "+" ++ padded 4 year.toNat
  else "-" ++ padded 4 (-year).toNat

def text (t : Timestamp) : String :=
  yearText t.year ++ "-" ++ padded 2 t.month ++ "-" ++ padded 2 t.day ++ "T" ++ padded 2 t.hour
    ++ ":" ++ padded 2 t.minute ++ ":" ++ padded 2 t.second ++ "Z"

end Timestamp

end ClusterObjects
