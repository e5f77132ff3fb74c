/-! Binary floating point of 64 bits in exact arithmetic.

A number is a mantissa below 2^53 times a power of two. Only numbers without a sign are needed
here. Products and quotients are worked out exactly and rounded once, to the nearest number, a tie
going to the even mantissa.
-/

namespace PropertyLint.Number

/-- The number `mantissa · 2 ^ exponent`.
The mantissa is at least 2^52 unless the exponent is the least one, -1074.
-/
structure Binary64 where
  mantissa : Nat
  exponent : Int
deriving DecidableEq, Repr, Inhabited

/-- The fraction `numerator / denominator` times `2 ^ exponent`, again as a fraction. -/
def scaleBinary (numerator denominator : Nat) (exponent : Int) : Nat × Nat :=
  if 0 ≤ exponent then (numerator * Nat.pow 2 exponent.toNat, denominator)
  else (numerator, denominator * Nat.pow 2 (-exponent).toNat)

/-- The integer nearest to a fraction, the even one of two. -/
def roundHalfEven (numerator denominator : Nat) : Nat :=
  let quotient := numerator / denominator
  let twice := 2 * (numerator % denominator)
  if twice < denominator ∨ (twice = denominator ∧ quotient % 2 = 0) then quotient
  else quotient + 1

/-- The exponent of the greatest power of two that is at most a positive fraction. -/
def floorLog2 (numerator denominator : Nat) : Int :=
  let guess : Int := numerator.log2 - denominator.log2
  let (scaled, unit) := scaleBinary numerator denominator (-guess)
  if unit ≤ scaled then guess else guess - 1

namespace Binary64

def zero : Binary64 := ⟨0, -1074⟩

def isZero (number : Binary64) : Bool :=
  number.mantissa = 0

/-- Whether the exponent is beyond the greatest one, so that the number has no 64-bit form. -/
def isInfinite (number : Binary64) : Bool :=
  971 < number.exponent

def toFraction (number : Binary64) : Nat × Nat :=
  scaleBinary number.mantissa 1 number.exponent

/-- The number nearest to a fraction. -/
def ofFraction (numerator denominator : Nat) : Binary64 :=
  if numerator = 0 then zero
  else
    let exponent := max (floorLog2 numerator denominator - 52) (-1074)
    let (scaled, unit) := scaleBinary numerator denominator (-exponent)
    let mantissa := roundHalfEven scaled unit
    if mantissa = Nat.pow 2 53 then ⟨Nat.pow 2 52, exponent + 1⟩ else ⟨mantissa, exponent⟩

/-- The number nearest to a product. -/
def mul (left right : Binary64) : Binary64 :=
  let (a, b) := left.toFraction
  let (c, d) := right.toFraction
  ofFraction (a * c) (b * d)

/-- The number nearest to a quotient by a number other than zero. -/
def div (left right : Binary64) : Binary64 :=
  let (a, b) := left.toFraction
  let (c, d) := right.toFraction
  ofFraction (a * d) (b * c)

/-- The number nearest to a power of ten. -/
def powerOfTen (exponent : Nat) : Binary64 :=
  ofFraction (Nat.pow 10 exponent) 1

/-- Divides by a power of ten, in steps of at most 10^308, the greatest power that has a 64-bit
form. Once the number has come down to zero it stays there.
-/
def divPowerOfTen (number : Binary64) (exponent : Nat) : Binary64 :=
  if exponent ≤ 308 then number.div (powerOfTen exponent)
  else if number.isZero then number
  else (number.div (powerOfTen 308)).divPowerOfTen (exponent - 308)
termination_by exponent

/-- The number for the digits `significand` with the decimal point moved by `exponent` places.
The significand and the power of ten are rounded first, and their product or quotient after.
There is none when the result would be infinite.
-/
def ofDecimal? (significand : Nat) (exponent : Int) : Option Binary64 :=
  let number := ofFraction significand 1
  if exponent < 0 then some (number.divPowerOfTen (-exponent).toNat)
  else if exponent ≤ 308 then
    let product := number.mul (powerOfTen exponent.toNat)
    if product.isInfinite then none else some product
  else if number.isZero then some number
  else none

end Binary64

end PropertyLint.Number
