/-!
# Double-precision numbers

A number of the IEEE 754 binary64 format is held as its bit pattern, so that equality and
arithmetic are plain functions on natural numbers. A pattern is a sign bit, 11 bits of exponent
and 52 bits of fraction. A finite number is a whole multiple of the least subnormal `2 ^ (-1074)`;
that multiple is its number of units. Arithmetic is exact on units and rounds once.
-/

namespace FilterSql

/-- A double-precision number, held as its bit pattern. -/
structure Binary64 where
  bits : UInt64

namespace Binary64

/-- The bits below the sign, which order the magnitudes. -/
def magnitude (number : Binary64) : Nat :=
  number.bits.toNat % 0x8000000000000000

/-- The magnitude of infinity; a greater magnitude is not a number. -/
def infinity : Nat := 0x7ff0000000000000

def isNaN (number : Binary64) : Bool :=
  decide (infinity < number.magnitude)

def isInfinite (number : Binary64) : Bool :=
  number.magnitude == infinity

def isZero (number : Binary64) : Bool :=
  number.magnitude == 0

/-- Numeric equality: what is not a number equals nothing, and the two zeros are equal. -/
def equal (left right : Binary64) : Bool :=
  !left.isNaN && !right.isNaN &&
    (left.bits == right.bits || (left.isZero && right.isZero))

instance : BEq Binary64 := ⟨equal⟩

/-- The number of fractions, which is also the least significand of a normal number. -/
def fractionCount : Nat := 0x10000000000000

/-- The magnitude of a finite number in units of the least subnormal. -/
def units (number : Binary64) : Nat :=
  let exponent := number.magnitude / fractionCount
  let fraction := number.magnitude % fractionCount
  if exponent = 0 then fraction
  else (fractionCount + fraction) <<< (exponent - 1)

/-- The number of units that make one. -/
def unitsOfOne : Nat := 1 <<< 1074

/-- The integer nearest to a ratio; of two, the even one. -/
def nearestInteger (numerator denominator : Nat) : Nat :=
  let floor := numerator / denominator
  let remainder := 2 * (numerator % denominator)
  if remainder < denominator then floor
  else if remainder = denominator ∧ floor % 2 = 0 then floor
  else floor + 1

/-- The number nearest to a ratio of units, infinity where the format ends.

A magnitude counts steps of `fractionCount` significands: in step `step` neighbours are
`2 ^ step` units apart, and a significand that rounds up to the end of its step carries into
the next. -/
def ofUnits (numerator denominator : Nat) : Binary64 :=
  let step := (numerator / denominator).log2 - 52
  let significand := nearestInteger numerator (denominator <<< step)
  ⟨.ofNat (min (step * fractionCount + significand) infinity)⟩

/-- The number nearest to a natural number. -/
def ofNat (n : Nat) : Binary64 :=
  ofUnits (n * unitsOfOne) 1

/-- The rounded product. -/
def mul (left right : Binary64) : Binary64 :=
  ofUnits (left.units * right.units) unitsOfOne

/-- The rounded quotient by a number other than zero. -/
def div (left right : Binary64) : Binary64 :=
  ofUnits (left.units * unitsOfOne) right.units

/-- The number with the other sign. -/
def neg (number : Binary64) : Binary64 :=
  ⟨number.bits ^^^ 0x8000000000000000⟩

end Binary64

end FilterSql
