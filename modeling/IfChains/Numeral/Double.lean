/-
**Binary floating-point magnitudes, read from decimals.**

A `Double` is a non-negative number of 53 significant bits, or infinity. `ofDecimal` rounds
`digits · 10 ^ power` to the nearest one, a tie going to the even significand, and gives infinity
beyond the largest.
-/

namespace IfChains

/-- A non-negative floating-point number `significand · 2 ^ exponent`, or infinity. -/
inductive Double
  | finite (significand : Nat) (exponent : Int)
  | infinite
deriving DecidableEq, Repr

namespace Double

/-- The least exponent of a significand. -/
def minExponent : Int := -1074

/-- The greatest exponent of a significand. -/
def maxExponent : Int := 971

/-- Zero. -/
def zero : Double := finite 0 minExponent

/-- A quotient rounded to the nearest integer, a tie going to the even one. -/
def roundQuotient (numerator denominator : Nat) : Nat :=
  let quotient := numerator / denominator
  let twice := 2 * (numerator % denominator)
  if twice < denominator then quotient
  else if denominator < twice then quotient + 1
  else if quotient % 2 = 0 then quotient else quotient + 1

/-- The ratio `numerator / denominator` divided by `2 ^ exponent`, as a ratio. -/
def scaled (numerator denominator : Nat) (exponent : Int) : Nat × Nat :=
  if 0 ≤ exponent then (numerator, denominator * Nat.pow 2 exponent.toNat)
  else (numerator * Nat.pow 2 (-exponent).toNat, denominator)

/-- The nearest floating-point number to a positive ratio. -/
def ofRatio (numerator denominator : Nat) : Double :=
  let guess : Int := numerator.log2 - denominator.log2 - 53
  let start := max guess minExponent
  let estimate := scaled numerator denominator start
  let fine := max (start + ((estimate.1 / estimate.2).log2 : Int) - 52) minExponent
  let ratio := scaled numerator denominator fine
  let rounded := roundQuotient ratio.1 ratio.2
  let result : Nat × Int :=
    if rounded = Nat.pow 2 53 then (Nat.pow 2 52, fine + 1) else (rounded, fine)
  if maxExponent < result.2 then infinite else finite result.1 result.2

/-- The number of decimal digits of a number, one for zero. -/
def digitCount (value : Nat) : Nat :=
  (Nat.toDigits 10 value).length

/-- The nearest floating-point number to `digits · 10 ^ power`. -/
def ofDecimal (digits : Nat) (power : Int) : Double :=
  if digits = 0 then zero
  else
    let size : Int := digitCount digits + power
    if 310 < size then infinite
    else if size < -330 then zero
    else if 0 ≤ power then ofRatio (digits * Nat.pow 10 power.toNat) 1
    else ofRatio digits (Nat.pow 10 (-power).toNat)

example : ofDecimal 1 (-1) = finite 7205759403792794 (-56) := by decide +kernel
example : ofDecimal 5 (-324) = finite 1 (-1074) := by decide +kernel
example : ofDecimal 1 309 = infinite := by decide +kernel
example : ofDecimal 17976931348623157 292 = finite (2 ^ 53 - 1) 971 := by decide +kernel

end Double

end IfChains
