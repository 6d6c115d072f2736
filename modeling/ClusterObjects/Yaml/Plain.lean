import ClusterObjects.Json.Basic
import ClusterObjects.Json.Token

/-!
# What a plain scalar denotes

A plain scalar is a null, a boolean, a number or a text, by the look of it. Integers may be written
in base sixteen, eight or two behind `0x`, `0o` and `0b`; more than one decimal digit behind a
leading zero makes a text. Numbers outside of 128 bits are no integers any more.
-/

namespace ClusterObjects.Yaml

open Decimal (Binary64)

inductive Plain where
  | null
  | bool (value : Bool)
  | int (value : Int)
  /-- A float; the infinities and the value that is no number have no finite part. -/
  | float (value : Option Binary64)
  | text
  deriving DecidableEq, Repr

namespace Plain

def isNull (s : String) : Bool := s == "null" || s == "Null" || s == "NULL" || s == "~"

def bool? (s : String) : Option Bool :=
  if s == "true" || s == "True" || s == "TRUE" then some true
  else if s == "false" || s == "False" || s == "FALSE" then some false
  else none

/-- The number written by digits of a base, at least one. -/
def digits? (base : Nat) (cs : List Char) : Option Nat :=
  if cs.isEmpty then none
  else cs.foldlM (fun n c ↦ do
    let d ← Json.Token.hexValue? c
    if d < base then some (base * n + d) else none) 0

/-- The base that a mark announces, and the digits behind it. -/
def based? : List Char → Option (Nat × List Char)
  | '0' :: 'x' :: cs => some (16, cs)
  | '0' :: 'o' :: cs => some (8, cs)
  | '0' :: 'b' :: cs => some (2, cs)
  | _ => none

/-- Whether decimal digits stand behind a leading zero, with or without a sign. -/
def hasLeadingZero (cs : List Char) : Bool :=
  let cs := match cs with
    | '-' :: cs => cs
    | '+' :: cs => cs
    | cs => cs
  match cs with
  | '0' :: c :: cs => (c :: cs).all Char.isDigit
  | _ => false

/-- The natural number of a scalar without sign. -/
def nat? (cs : List Char) : Option Nat :=
  match based? cs with
  | some (base, digits) => digits? base digits
  | none => digits? 10 cs

/-- The integer of a scalar: with a sign or without, and within 128 bits. -/
def int? (s : String) : Option Int :=
  let cs := s.toList
  if hasLeadingZero cs then none
  else
    match cs with
    | '-' :: cs => (nat? cs).bind fun n ↦ if n ≤ Nat.pow 2 127 then some (-(n : Int)) else none
    | '+' :: cs => (nat? cs).bind fun n ↦ if n < Nat.pow 2 128 then some (n : Int) else none
    | cs => (nat? cs).bind fun n ↦ if n < Nat.pow 2 128 then some (n : Int) else none

/-- The exponent at the end of a decimal, zero when there is none. -/
def exponent? : List Char → Option Int
  | [] => some 0
  | e :: cs =>
    if e == 'e' || e == 'E' then
      match cs with
      | '-' :: cs => (digits? 10 cs).map fun n ↦ -(n : Int)
      | '+' :: cs => (digits? 10 cs).map fun n ↦ (n : Int)
      | cs => (digits? 10 cs).map fun n ↦ (n : Int)
    else none

/-- A finite decimal: digits with or without a point among them, one at least, and an exponent. -/
def decimal? (negative : Bool) (cs : List Char) : Option Binary64 := do
  let whole := cs.takeWhile Char.isDigit
  let cs := cs.dropWhile Char.isDigit
  let (fraction, cs) := match cs with
    | '.' :: cs => (cs.takeWhile Char.isDigit, cs.dropWhile Char.isDigit)
    | cs => ([], cs)
  let digits ← digits? 10 (whole ++ fraction)
  let power ← exponent? cs
  Binary64.ofDecimal negative digits (power - fraction.length)

/-- The float of a scalar. -/
def float? (s : String) : Option (Option Binary64) :=
  if s == ".nan" || s == ".NaN" || s == ".NAN" then some none
  else
    let infinite (cs : List Char) : Bool :=
      [".inf", ".Inf", ".INF"].any fun word ↦ word.toList == cs
    match s.toList with
    | '-' :: cs => if infinite cs then some none else (decimal? true cs).map some
    | '+' :: cs => if infinite cs then some none else (decimal? false cs).map some
    | cs => if infinite cs then some none else (decimal? false cs).map some

def ofText (s : String) : Plain :=
  if s.isEmpty || isNull s then null
  else
    match bool? s with
    | some b => bool b
    | none =>
      match int? s with
      | some n => int n
      | none =>
        if hasLeadingZero s.toList then text
        else
          match float? s with
          | some x => float x
          | none => text

end Plain

end ClusterObjects.Yaml
