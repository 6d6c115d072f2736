/-!
# Finite binary floating-point values

A finite 64-bit float is kept as its sign, its significand and the exponent of its unit, so every
value is exact and two values are equal exactly when their parts are. `ofQuotient` is rounding to
nearest, ties to even, of a quotient of naturals; reading a decimal and scaling by a power of ten
are both stated through it.
-/

namespace ClusterObjects.Decimal

/-- The value `± significand · 2 ^ (exponent - 1074)`. A significand below `2 ^ 52` has exponent
zero, so every value has one representation. -/
structure Binary64 where
  negative : Bool
  significand : Nat
  exponent : Nat
  deriving DecidableEq, Repr

/-- The number of binary digits, zero for zero. -/
def bitLength (n : Nat) : Nat := if n = 0 then 0 else n.log2 + 1

/-- The number of decimal digits, one for zero. -/
def digitCount (n : Nat) : Nat := (Nat.toDigits 10 n).length

/-- The integer nearest to `num / den`; of two equally near ones the even one. -/
def roundHalfEven (num den : Nat) : Nat :=
  let whole := num / den
  let rest := num % den
  if 2 * rest < den then whole
  else if den < 2 * rest then whole + 1
  else if whole % 2 = 0 then whole else whole + 1

namespace Binary64

def zero (negative : Bool) : Binary64 := ⟨negative, 0, 0⟩

def isZero (x : Binary64) : Bool := x.significand == 0

/-- The magnitude in units of `2 ^ (-1074)`. -/
def units (x : Binary64) : Nat := x.significand * Nat.pow 2 x.exponent

/-- The finite value nearest to `± num / den`, or nothing when it lies beyond the largest one. -/
def ofQuotient (negative : Bool) (num den : Nat) : Option Binary64 :=
  let scaled := num * Nat.pow 2 1074
  let shift := bitLength (scaled / den) - 53
  let rounded := roundHalfEven scaled (den * Nat.pow 2 shift)
  let x : Binary64 :=
    if rounded = Nat.pow 2 53 then ⟨negative, Nat.pow 2 52, shift + 1⟩
    else ⟨negative, rounded, shift⟩
  if x.exponent ≤ 2045 then some x else none

/-- The value nearest to `± digits · 10 ^ power`. Powers far outside the range are settled by the
number of digits alone. -/
def ofDecimal (negative : Bool) (digits : Nat) (power : Int) : Option Binary64 :=
  if digits = 0 then some (zero negative)
  else if 310 < power then none
  else if power + digitCount digits < -330 then some (zero negative)
  else if 0 ≤ power then ofQuotient negative (digits * Nat.pow 10 power.toNat) 1
  else ofQuotient negative digits (Nat.pow 10 (-power).toNat)

def mulPowTen (x : Binary64) (power : Nat) : Option Binary64 := do
  let scale ← ofDecimal false 1 power
  ofQuotient x.negative (x.units * scale.units) (Nat.pow 2 2148)

def divPowTen (x : Binary64) (power : Nat) : Option Binary64 := do
  let scale ← ofDecimal false 1 power
  ofQuotient x.negative x.units scale.units

/-- The decimal `± digits · 10 ^ power` read in steps: the digits are rounded to a float first, and
then scaled by a rounded power of ten, a division by more than `10 ^ 308` being taken in two
steps. This is nearest up to the last place. -/
def ofDecimalInSteps (negative : Bool) (digits : Nat) (power : Int) : Option Binary64 := do
  let start ← ofQuotient negative digits 1
  if 0 ≤ power then
    if start.isZero then some start
    else if 308 < power then none
    else start.mulPowTen power.toNat
  else
    let down := (-power).toNat
    if down ≤ 308 then start.divPowTen down
    else if 700 < down then some (zero negative)
    else
      let first ← start.divPowTen 308
      if down - 308 ≤ 308 then first.divPowTen (down - 308) else some (zero negative)

end Binary64

end ClusterObjects.Decimal
