import PropertyLint.Number.Binary64

/-! The shortest decimal that reads back as a given binary number.

A decimal reads back as the number when it lies in the interval of reals that round to it. For one
digit, two digits and so on, the number's two neighbours among the decimals of that many digits are
tried; the first that lies in the interval is taken, and the nearer one of two.
-/

namespace PropertyLint.Number

/-- The number `digits · 10 ^ exponent`. -/
structure Decimal where
  digits : Nat
  exponent : Int
deriving DecidableEq, Repr

/-- The number of decimal digits of a natural number. -/
def digitCount (n : Nat) : Nat :=
  (Nat.toDigits 10 n).length

/-- The exponent of the greatest power of ten that is at most a positive fraction. -/
def floorLog10 (numerator denominator : Nat) : Int :=
  if denominator ≤ numerator then digitCount (numerator / denominator) - 1
  else
    let count : Nat := digitCount (denominator / numerator)
    if numerator * Nat.pow 10 (count - 1) = denominator then 1 - (count : Int) else -(count : Int)

/-- The fraction `numerator / denominator` times `10 ^ exponent`, again as a fraction. -/
def scaleDecimal (numerator denominator : Nat) (exponent : Int) : Nat × Nat :=
  if 0 ≤ exponent then (numerator * Nat.pow 10 exponent.toNat, denominator)
  else (numerator, denominator * Nat.pow 10 (-exponent).toNat)

namespace Decimal

/-- The decimal without trailing zeros among its digits, at most `budget` of which are dropped. -/
def stripWithin : Nat → Decimal → Decimal
  | 0, decimal => decimal
  | budget + 1, decimal =>
    if decimal.digits ≠ 0 ∧ decimal.digits % 10 = 0 then
      stripWithin budget ⟨decimal.digits / 10, decimal.exponent + 1⟩
    else decimal

/-- The decimal without trailing zeros among its digits. -/
def strip (decimal : Decimal) : Decimal :=
  stripWithin (digitCount decimal.digits) decimal

end Decimal

namespace Binary64

/-- Whether a decimal lies in the interval of reals that round to the number.
The interval reaches half way to the neighbours. The lower neighbour is nearer when the mantissa is
a power of two. The ends belong to the number when its mantissa is even.
-/
def readsBack (number : Binary64) (decimal : Decimal) : Bool :=
  let (value, unit) := scaleDecimal decimal.digits 1 decimal.exponent
  let narrow := number.mantissa = Nat.pow 2 52 ∧ number.exponent ≠ -1074
  let (low, lowUnit) :=
    scaleBinary (4 * number.mantissa - if narrow then 1 else 2) 4 number.exponent
  let (high, highUnit) := scaleBinary (4 * number.mantissa + 2) 4 number.exponent
  if number.mantissa % 2 = 0 then
    low * unit ≤ value * lowUnit && value * highUnit ≤ high * unit
  else low * unit < value * lowUnit && value * highUnit < high * unit

/-- The nearest of the decimals with `count` digits that read back as a number whose greatest power
of ten is `magnitude`, if there is one.
-/
def ofDigitCount? (number : Binary64) (magnitude : Int) (count : Nat) : Option Decimal :=
  let exponent := magnitude - count + 1
  let (numerator, denominator) := number.toFraction
  let (scaled, unit) := scaleDecimal numerator denominator (-exponent)
  let below : Decimal := ⟨scaled / unit, exponent⟩
  let above : Decimal := ⟨scaled / unit + 1, exponent⟩
  match number.readsBack below, number.readsBack above with
  | true, true =>
    let twice := 2 * (scaled % unit)
    if twice < unit ∨ (twice = unit ∧ below.digits % 2 = 0) then some below else some above
  | true, false => some below
  | false, true => some above
  | false, false => none

/-- The shortest decimal that reads back as the number, and of those the nearest.
Seventeen digits always suffice.
-/
def shortest (number : Binary64) : Decimal :=
  if number.isZero then ⟨0, 0⟩
  else
    let (numerator, denominator) := number.toFraction
    let magnitude := floorLog10 numerator denominator
    let found := (List.range 17).findSome? fun index =>
      number.ofDigitCount? magnitude (index + 1)
    (found.getD ⟨0, 0⟩).strip

end Binary64

namespace Decimal

/-- Decimals are written with a point from 10^-5 up to 10^16, with at least one digit on each side
of it, and in scientific form with a signed exponent otherwise.
-/
def text (decimal : Decimal) : String :=
  let digits := Nat.toDigits 10 decimal.digits
  let count := digits.length
  let magnitude := decimal.exponent + count - 1
  if decimal.digits = 0 then "0.0"
  else if 0 ≤ magnitude ∧ magnitude ≤ 15 then
    let whole := magnitude.toNat + 1
    if count ≤ whole then
      String.ofList (digits ++ List.replicate (whole - count) '0') ++ ".0"
    else String.ofList (digits.take whole) ++ "." ++ String.ofList (digits.drop whole)
  else if -5 ≤ magnitude ∧ magnitude < 0 then
    "0." ++ String.ofList (List.replicate (-magnitude - 1).toNat '0' ++ digits)
  else
    let fraction := if count = 1 then "" else "." ++ String.ofList (digits.drop 1)
    let sign := if 0 ≤ magnitude then "+" else "-"
    String.ofList (digits.take 1) ++ fraction ++ "e" ++ sign ++ toString magnitude.natAbs

end Decimal

end PropertyLint.Number
