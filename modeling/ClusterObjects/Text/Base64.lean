/-!
# Base 64

A text is in base 64 when it comes in groups of four characters of the alphabet, of which only the
last group may end in one or two pads, and the bits that a pad leaves unused are zero. Every byte
sequence has exactly one such text.
-/

namespace ClusterObjects.Text.Base64

/-- The six bits of a character of the alphabet. -/
def value? (c : Char) : Option Nat :=
  if 'A' ≤ c ∧ c ≤ 'Z' then some (c.toNat - 'A'.toNat)
  else if 'a' ≤ c ∧ c ≤ 'z' then some (c.toNat - 'a'.toNat + 26)
  else if '0' ≤ c ∧ c ≤ '9' then some (c.toNat - '0'.toNat + 52)
  else if c = '+' then some 62
  else if c = '/' then some 63
  else none

def isDigit (c : Char) : Bool := (value? c).isSome

/-- Whether the last bits of a digit, as many as `modulus` counts, are zero. -/
def endsInZero (modulus : Nat) (c : Char) : Bool := (value? c).any (· % modulus == 0)

def isValid : List Char → Bool
  | [] => true
  | [a, b, c, d] =>
    isDigit a &&
      (if c = '=' then endsInZero 16 b && d = '='
      else if d = '=' then isDigit b && endsInZero 4 c
      else isDigit b && isDigit c && isDigit d)
  | a :: b :: c :: d :: rest => isDigit a && isDigit b && isDigit c && isDigit d && isValid rest
  | _ => false

end ClusterObjects.Text.Base64
