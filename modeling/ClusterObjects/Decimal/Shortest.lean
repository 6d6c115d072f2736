import ClusterObjects.Decimal.Binary64

/-!
# Shortest decimal text of a float

`shortest` finds the fewest decimal digits that read back as a given value, and of those the ones
nearest to it: for one digit, two digits and so on, it tests the two neighbours of the value on
that decimal grid. `Layout` says how a format writes such digits down.
-/

namespace ClusterObjects.Decimal

/-- The decimal `digits · 10 ^ power`. -/
structure Scientific where
  digits : Nat
  power : Int
  deriving DecidableEq, Repr

namespace Binary64

/-- Whether `num / den`, in units of `2 ^ (-1074)`, is rounded to the magnitude of `x`. -/
def covers (x : Binary64) (num den : Nat) : Bool :=
  let unit := Nat.pow 2 x.exponent
  let upper := (2 * x.significand + 1) * unit
  let narrow := x.significand == Nat.pow 2 52 && 0 < x.exponent
  let closed := x.significand % 2 == 0
  let aboveLower :=
    if narrow then
      let lower := (4 * x.significand - 1) * unit
      if closed then lower * den ≤ 4 * num else lower * den < 4 * num
    else
      let lower := (2 * x.significand - 1) * unit
      if closed then lower * den ≤ 2 * num else lower * den < 2 * num
  let belowUpper := if closed then 2 * num ≤ upper * den else 2 * num < upper * den
  aboveLower && belowUpper

/-- The power of ten of the leading decimal digit of `num / den`. -/
def leadingPower (num den : Nat) : Int :=
  if den ≤ num then (digitCount (num / den) : Int) - 1
  else
    let digits := digitCount (den / num)
    if den ≤ num * Nat.pow 10 (digits - 1) then -((digits : Int) - 1) else -(digits : Int)

/-- The point `digits · 10 ^ power` as a quotient in units of `2 ^ (-1074)`. -/
def gridPoint (digits : Nat) (power : Int) : Nat × Nat :=
  if 0 ≤ power then (digits * Nat.pow 10 power.toNat * Nat.pow 2 1074, 1)
  else (digits * Nat.pow 2 1074, Nat.pow 10 (-power).toNat)

/-- The neighbour of `x` on the grid of multiples of `10 ^ power` that reads back as `x`. -/
def onGrid (x : Binary64) (power : Int) : Option Nat :=
  let (num, den) : Nat × Nat :=
    if 0 ≤ power then (x.units, Nat.pow 2 1074 * Nat.pow 10 power.toNat)
    else (x.units * Nat.pow 10 (-power).toNat, Nat.pow 2 1074)
  let low := num / den
  let rest := num % den
  let fits (d : Nat) : Bool := x.covers (gridPoint d power).1 (gridPoint d power).2
  match fits low, fits (low + 1) with
  | true, false => some low
  | false, true => some (low + 1)
  | false, false => none
  | true, true =>
    if 2 * rest < den then some low
    else if den < 2 * rest then some (low + 1)
    else if low % 2 = 0 then some low else some (low + 1)

def shortestFrom (x : Binary64) (lead : Int) : Nat → Scientific
  | 0 => ⟨x.units, 0⟩
  | left + 1 =>
    let power := lead - (16 - left : Nat)
    match x.onGrid power with
    | some digits => ⟨digits, power⟩
    | none => shortestFrom x lead left

/-- The fewest digits that read back as the magnitude of `x`. -/
def shortest (x : Binary64) : Scientific :=
  if x.isZero then ⟨0, 0⟩
  else shortestFrom x (leadingPower x.units (Nat.pow 2 1074)) 17

end Binary64

/-- How digits become text: a decimal point at position `n` of the digits is written out when
`low < n ≤ high`, and an exponent is written otherwise. A whole number ends with its point and a
zero, or without them. -/
structure Layout where
  low : Int
  high : Int
  pointed : Bool

def zeros (count : Nat) : List Char := List.replicate count '0'

namespace Layout

/-- An exponent carries no plus sign. -/
def write (layout : Layout) (value : Scientific) : List Char :=
  let all := Nat.toDigits 10 value.digits
  let digits := (all.reverse.dropWhile (· == '0')).reverse
  match digits with
  | [] => if layout.pointed then ['0', '.', '0'] else ['0']
  | first :: rest =>
    let point : Int := all.length + value.power
    if layout.low < point ∧ point ≤ layout.high then
      if point ≤ 0 then ['0', '.'] ++ zeros (-point).toNat ++ digits
      else
        let whole := digits.take point.toNat
        let fraction := digits.drop point.toNat
        let whole := whole ++ zeros (point.toNat - whole.length)
        if !fraction.isEmpty then whole ++ '.' :: fraction
        else if layout.pointed then whole ++ ['.', '0']
        else whole
    else
      let power := (toString (point - 1)).toList
      let mantissa := if rest.isEmpty then [first] else first :: '.' :: rest
      mantissa ++ 'e' :: power

end Layout

/-- The text of a float: its sign, then its shortest digits. -/
def Binary64.text (layout : Layout) (x : Binary64) : String :=
  String.ofList ((if x.negative then ['-'] else []) ++ layout.write x.shortest)

end ClusterObjects.Decimal
