/-!
# Unsigned numbers of 64 bits

`unsigned64` reads decimal digits, behind at most one plus sign. It stops at the first fault: a
character that is no digit, or the digit that makes the number too large.
-/

namespace ClusterObjects.Decimal

inductive NumberFault where
  | empty
  | notADigit
  | tooLarge
  deriving DecidableEq, Repr

def NumberFault.message : NumberFault → String
  | empty => "cannot parse integer from empty string"
  | notADigit => "invalid digit found in string"
  | tooLarge => "number too large to fit in target type"

/-- The number that digits make behind those already read. -/
def digits64 (number : Nat) : List Char → Except NumberFault UInt64
  | [] => .ok number.toUInt64
  | c :: rest =>
    if !c.isDigit then .error .notADigit
    else
      let number := 10 * number + (c.toNat - '0'.toNat)
      if UInt64.size ≤ number then .error .tooLarge else digits64 number rest

def unsigned64 (text : String) : Except NumberFault UInt64 :=
  match text.toList with
  | [] => .error .empty
  | ['+'] => .error .notADigit
  | '+' :: digits => digits64 0 digits
  | digits => digits64 0 digits

end ClusterObjects.Decimal
