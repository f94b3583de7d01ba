/-
**The shortest decimal that reads back as a floating-point number.**

`shortest` tries one digit, then two, and so on up to seventeen. On each grid it looks at the two
neighbours of the number and takes the nearer of those that round to it. `text` then writes the
digits: positionally when the decimal point falls from three places before the first digit to
sixteen after it, with an exponent of at least two digits elsewhere.
-/

import IfChains.Numeral.Double

namespace IfChains

namespace Double

/-- A decimal `0.d₁d₂… · 10 ^ point`. -/
structure Decimal where
  digits : List Char
  point : Int
deriving DecidableEq, Repr

/-- The place of the decimal point of a positive ratio `v`: the least `p` with `v < 10 ^ p`. -/
def pointOf (numerator denominator : Nat) : Int :=
  if denominator ≤ numerator then digitCount (numerator / denominator)
  else
    let count := digitCount (denominator / numerator)
    if numerator * Nat.pow 10 (count - 1) = denominator then 2 - count else 1 - count

/-- The ratio `numerator / denominator` divided by `10 ^ power`, as a ratio. -/
def tenthed (numerator denominator : Nat) (power : Int) : Nat × Nat :=
  if 0 ≤ power then (numerator, denominator * Nat.pow 10 power.toNat)
  else (numerator * Nat.pow 10 (-power).toNat, denominator)

/-- Whether `candidate · 10 ^ power` rounds to the number `significand · 2 ^ exponent`. -/
def readsBack (significand : Nat) (exponent : Int) (candidate : Nat) (power : Int) : Bool :=
  let below := if significand = Nat.pow 2 52 ∧ minExponent < exponent then 1 else 2
  -- four times the candidate, in units of the last place of the number
  let ratio := scaled (4 * candidate) 1 exponent
  let value : Nat × Nat := if 0 ≤ power then (ratio.1 * Nat.pow 10 power.toNat, ratio.2)
    else (ratio.1, ratio.2 * Nat.pow 10 (-power).toNat)
  let low := (4 * significand - below) * value.2
  let high := (4 * significand + 2) * value.2
  if significand % 2 = 0 then low ≤ value.1 && value.1 ≤ high
  else low < value.1 && value.1 < high

/-- The number a grid of `10 ^ power` offers: the nearer of the two neighbours that read back. -/
def onGrid (significand : Nat) (exponent : Int) (power : Int) : Option Nat :=
  let whole := scaled significand 1 (-exponent)
  let ratio := tenthed whole.1 whole.2 power
  let lower := ratio.1 / ratio.2
  let twice := 2 * (ratio.1 % ratio.2)
  let nearLower := twice < ratio.2 || twice == ratio.2 && lower % 2 == 0
  let candidates := if nearLower then [lower, lower + 1] else [lower + 1, lower]
  candidates.find? fun candidate => readsBack significand exponent candidate power

/-- The first grid, from `count` digits on, that offers a number. -/
def search (significand : Nat) (exponent : Int) (point : Int) : (tries count : Nat) → Decimal
  | 0, _ => ⟨['0'], 1⟩
  | tries + 1, count =>
    match onGrid significand exponent (point - count) with
    | some candidate =>
      let digits := Nat.toDigits 10 candidate
      let kept := (digits.reverse.dropWhile (· == '0')).reverse
      ⟨kept, point - count + digits.length⟩
    | none => search significand exponent point tries (count + 1)

/-- The shortest decimal that reads back as a finite number. -/
def shortest (significand : Nat) (exponent : Int) : Decimal :=
  if significand = 0 then ⟨['0'], 1⟩
  else
    let whole := scaled significand 1 (-exponent)
    search significand exponent (pointOf whole.1 whole.2) 17 1

/-- An exponent with its sign and at least two digits. -/
def exponentText (exponent : Int) : List Char :=
  let digits := Nat.toDigits 10 exponent.natAbs
  (if exponent < 0 then '-' else '+') :: (if digits.length < 2 then '0' :: digits else digits)

/-- A decimal written out; a whole number ends in `.0` if `pointed`. -/
def Decimal.text (decimal : Decimal) (pointed : Bool) : List Char :=
  let count : Int := decimal.digits.length
  if decimal.point ≤ -4 || 16 < decimal.point then
    let head := decimal.digits.take 1
    let rest := decimal.digits.drop 1
    head ++ (if rest.isEmpty then [] else '.' :: rest) ++ 'e' :: exponentText (decimal.point - 1)
  else if decimal.point ≤ 0 then
    '0' :: '.' :: List.replicate (-decimal.point).toNat '0' ++ decimal.digits
  else if count ≤ decimal.point then
    decimal.digits ++ List.replicate (decimal.point - count).toNat '0' ++
      (if pointed then ['.', '0'] else [])
  else
    decimal.digits.take decimal.point.toNat ++ '.' :: decimal.digits.drop decimal.point.toNat

/-- The text of a number in a program; infinity is a decimal too large for any number. -/
def text (value : Double) (pointed : Bool) : String :=
  match value with
  | finite significand exponent =>
    String.ofList ((shortest significand exponent).text pointed)
  | infinite => "1e309"

example : (ofDecimal 1 (-1)).text true = "0.1" := by decide +kernel
example : (ofDecimal 5 (-324)).text true = "5e-324" := by decide +kernel
example : (ofDecimal 1 16).text true = "1e+16" := by decide +kernel
example : (ofDecimal 1 15).text true = "1000000000000000.0" := by decide +kernel
example : (ofDecimal 1 (-5)).text true = "1e-05" := by decide +kernel
example : (ofDecimal 12345 (-8)).text true = "0.00012345" := by decide +kernel
example : (ofDecimal 100005 (-1)).text true = "10000.5" := by decide +kernel
example : zero.text true = "0.0" := by decide +kernel
example : (ofDecimal 2 0).text false = "2" := by decide +kernel

end Double

end IfChains
