import ClusterObjects.Json.Basic

/-!
# The tokens of a JSON text

`tokens` cuts a text into punctuation, strings and words, and reads the words as numbers and
literals. A text that breaks off inside a token is told apart from one that is wrong, because a
reader of a stream treats the two differently. A float is read in steps from at most twenty digits.
-/

namespace ClusterObjects

/-- Why a text is no JSON value: it ends too early, or no continuation would make it one. -/
inductive Json.Fault where
  | ended
  | malformed
  deriving DecidableEq, Repr

open Decimal (Binary64)
open Json (Fault)

/-- The parts of a written number. -/
structure Numeral where
  negative : Bool
  whole : List Char
  fraction : List Char
  exponent : Option (Bool × List Char)
  deriving Repr

namespace Numeral

/-- The leading digits, at least one, and what follows. -/
def someDigits (cs : List Char) : Except Fault (List Char × List Char) :=
  let digits := cs.takeWhile Char.isDigit
  let rest := cs.dropWhile Char.isDigit
  if digits.isEmpty then .error (if rest.isEmpty then .ended else .malformed)
  else .ok (digits, rest)

def exponentOf : List Char → Except Fault (Option (Bool × List Char))
  | [] => .ok none
  | e :: cs =>
    if e = 'e' ∨ e = 'E' then do
      let (down, cs) := match cs with
        | '-' :: cs => (true, cs)
        | '+' :: cs => (false, cs)
        | cs => (false, cs)
      let (digits, rest) ← someDigits cs
      if rest.isEmpty then .ok (some (down, digits)) else .error .malformed
    else .error .malformed

/-- Reads a whole word as a number. The first digit is a zero only if it is the only one. -/
def ofWord (cs : List Char) : Except Fault Numeral := do
  let (negative, cs) := match cs with
    | '-' :: cs => (true, cs)
    | cs => (false, cs)
  let (whole, cs) ← someDigits cs
  if whole.head? = some '0' ∧ 1 < whole.length then .error .malformed
  let (fraction, cs) ← match cs with
    | '.' :: cs => someDigits cs
    | cs => .ok ([], cs)
  let exponent ← exponentOf cs
  return { negative, whole, fraction, exponent }

def digitValue (c : Char) : Nat := c.toNat - '0'.toNat

def decimalValue (digits : List Char) : Nat :=
  digits.foldl (fun n c ↦ 10 * n + digitValue c) 0

/-- Extends a significand by digits as long as it fits into 64 bits, and counts the digits used. -/
def extend (significand : Nat) : List Char → Nat × Nat
  | [] => (significand, 0)
  | c :: cs =>
    let next := 10 * significand + digitValue c
    if next < UInt64.size then
      let (final, used) := extend next cs
      (final, used + 1)
    else (significand, 0)

/-- The value: an integer when it is written as one and fits into 64 bits, with or without a sign,
and else a float. A negative zero is a float. -/
def value (n : Numeral) : Option Number :=
  let (significand, used) := extend 0 n.whole
  let unread := n.whole.length - used
  if n.fraction.isEmpty ∧ n.exponent.isNone ∧ unread = 0 then
    if !n.negative then some (.int significand)
    else if 0 < significand ∧ significand ≤ 0x8000000000000000 then
      some (.int (-(significand : Int)))
    else (Binary64.ofQuotient true significand 1).map .float
  else
    let (significand, used) := extend significand n.fraction
    let shift : Int := match n.exponent with
      | none => 0
      | some (true, digits) => -(decimalValue digits : Int)
      | some (false, digits) => decimalValue digits
    (Binary64.ofDecimalInSteps n.negative significand (unread - used + shift)).map .float

end Numeral

namespace Json

inductive Token where
  | mark (c : Char)
  | str (s : String)
  | atom (value : Json)
  | broken (inString : Bool) (fault : Fault)
  deriving Repr

namespace Token

def isBlank (c : Char) : Bool := c == ' ' || c == '\n' || c == '\t' || c == '\r'

def isMark (c : Char) : Bool :=
  c == '[' || c == ']' || c == '\x7b' || c == '\x7d' || c == ',' || c == ':'

/-- The characters of numbers and literals. -/
def isWordChar (c : Char) : Bool := c.isAlphanum || c == '-' || c == '+' || c == '.'

def literals : List (List Char × Json) :=
  [("null".toList, .null), ("true".toList, .bool true), ("false".toList, .bool false)]

/-- Reads a word; `final` says that the text ends with it. -/
def ofWord (word : List Char) (final : Bool) : Token :=
  match literals.find? (·.1 == word) with
  | some (_, value) => .atom value
  | none =>
    if literals.any fun literal ↦ word.isPrefixOf literal.1 then
      .broken false (if final then .ended else .malformed)
    else
      match Numeral.ofWord word with
      | .error .ended => .broken false (if final then .ended else .malformed)
      | .error .malformed => .broken false .malformed
      | .ok numeral =>
        match numeral.value with
        | some number => .atom (.num number)
        | none => .broken false .malformed

def hexValue? (c : Char) : Option Nat :=
  if c.isDigit then some (c.toNat - '0'.toNat)
  else if 'a' ≤ c ∧ c ≤ 'f' then some (c.toNat - 'a'.toNat + 10)
  else if 'A' ≤ c ∧ c ≤ 'F' then some (c.toNat - 'A'.toNat + 10)
  else none

/-- The number written by hexadecimal digits, all of which have to be ones. -/
def hexNumber? (cs : List Char) : Option Nat :=
  cs.foldlM (fun n c ↦ (hexValue? c).map (16 * n + ·)) 0

def simpleEscape? (c : Char) : Option Char :=
  if c = '"' ∨ c = '\\' ∨ c = '/' then some c
  else if c = 'b' then some '\x08'
  else if c = 'f' then some '\x0c'
  else if c = 'n' then some '\n'
  else if c = 'r' then some '\r'
  else if c = 't' then some '\t'
  else none

/-- Where a reader stands inside a string: between characters, after a backslash, inside the
digits of an escape, or after a leading surrogate that waits for its second half. -/
inductive Place where
  | between
  | escaped
  | digits (lead : Option Nat) (seen : List Char)
  | halfway (lead : Nat)
  | halfwayEscaped (lead : Nat)

/-- The character of an escape with four digits, or the leading surrogate it gives. -/
def ofUnit (lead : Option Nat) (unit : Nat) : Option (Char ⊕ Nat) :=
  match lead with
  | none =>
    if 0xD800 ≤ unit ∧ unit ≤ 0xDBFF then some (.inr unit)
    else if 0xDC00 ≤ unit ∧ unit ≤ 0xDFFF then none
    else some (.inl (Char.ofNat unit))
  | some high =>
    if 0xDC00 ≤ unit ∧ unit ≤ 0xDFFF then
      some (.inl (Char.ofNat (0x10000 + (high - 0xD800) * 0x400 + (unit - 0xDC00))))
    else none

/-- Whether four bytes are left to read. -/
def fourBytesLeft (cs : List Char) : Bool :=
  4 ≤ (cs.take 4).foldl (fun n c ↦ n + c.utf8Size) 0

mutual

def between : List Char → List Token
  | [] => []
  | c :: cs =>
    if isBlank c then between cs
    else if isMark c then .mark c :: between cs
    else if c == '"' then string .between [] cs
    else if isWordChar c then word [c] cs
    else [.broken false .malformed]

def word (seen : List Char) : List Char → List Token
  | [] => [ofWord seen.reverse true]
  | c :: cs =>
    if isWordChar c then word (c :: seen) cs
    else
      ofWord seen.reverse false ::
        if isBlank c then between cs
        else if isMark c then .mark c :: between cs
        else if c == '"' then string .between [] cs
        else [.broken false .malformed]

def string (place : Place) (seen : List Char) : List Char → List Token
  | [] => [.broken true .ended]
  | c :: cs =>
    match place with
    | .between =>
      if c == '"' then .str (String.ofList seen.reverse) :: between cs
      else if c == '\\' then string .escaped seen cs
      else if c.toNat < 32 then [.broken true .malformed]
      else string .between (c :: seen) cs
    | .escaped =>
      if c == 'u' then
        if fourBytesLeft cs then string (.digits none []) seen cs else [.broken true .ended]
      else
        match simpleEscape? c with
        | some d => string .between (d :: seen) cs
        | none => [.broken true .malformed]
    | .digits lead found =>
      if found.length < 3 then string (.digits lead (c :: found)) seen cs
      else
        match (hexNumber? (c :: found).reverse).bind (ofUnit lead) with
        | some (.inl d) => string .between (d :: seen) cs
        | some (.inr high) => string (.halfway high) seen cs
        | none => [.broken true .malformed]
    | .halfway lead =>
      if c == '\\' then string (.halfwayEscaped lead) seen cs else [.broken true .malformed]
    | .halfwayEscaped lead =>
      if c == 'u' then
        if fourBytesLeft cs then string (.digits (some lead) []) seen cs
        else [.broken true .ended]
      else [.broken true .malformed]

end

end Token

def tokens (text : String) : List Token := Token.between text.toList

end Json

end ClusterObjects
