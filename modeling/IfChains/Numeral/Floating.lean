/-
**Floating-point numbers with a sign.**

A number is a magnitude with a sign, zero included, or it is undefined. Sums and products are those
of the exact numbers, rounded once.
-/

import IfChains.Numeral.Shortest

namespace IfChains

/-- A floating-point number, or what is none. -/
inductive Floating
  | number (negative : Bool) (magnitude : Double)
  | undefined
deriving DecidableEq, Repr

namespace Floating

/-- Zero. -/
def zero : Floating :=
  number false Double.zero

/-- The integer that a number is equal to. -/
def toInt? : Floating → Option Int
  | number negative (.finite significand exponent) =>
    let signed : Nat → Int := fun value => if negative then -value else value
    if 0 ≤ exponent then some (signed (significand * Nat.pow 2 exponent.toNat))
    else if significand % Nat.pow 2 (-exponent).toNat = 0 then
      some (signed (significand / Nat.pow 2 (-exponent).toNat))
    else none
  | _ => none

/-- The text of a number. -/
def text : Floating → String
  | number negative magnitude =>
    (if negative then "-" else "") ++ match magnitude with
      | .infinite => "inf"
      | .finite .. => magnitude.text true
  | undefined => "nan"

/-- The number with the other sign. -/
def negate : Floating → Floating
  | number negative magnitude => number (!negative) magnitude
  | undefined => undefined

/-- The nearest magnitude to a whole number of units of a power of two. -/
def nearest (units : Nat) (exponent : Int) : Double :=
  if units = 0 then Double.zero
  else if 0 ≤ exponent then Double.ofRatio (units * Nat.pow 2 exponent.toNat) 1
  else Double.ofRatio units (Nat.pow 2 (-exponent).toNat)

/-- The sum of two numbers; zeros of different signs make a positive one. -/
def add : Floating → Floating → Floating
  | number sign (.finite first power), number other (.finite second exponent) =>
    let least := min power exponent
    let units : Bool → Nat → Int → Int := fun negative value exponent =>
      let scaled : Int := (value * Nat.pow 2 (exponent - least).toNat : Nat)
      if negative then -scaled else scaled
    let total := units sign first power + units other second exponent
    if total = 0 then number (sign && other) Double.zero
    else number (total < 0) (nearest total.natAbs least)
  | number sign .infinite, number other .infinite =>
    if sign = other then number sign .infinite else undefined
  | number sign .infinite, number _ (.finite ..) => number sign .infinite
  | number _ (.finite ..), number sign .infinite => number sign .infinite
  | _, _ => undefined

/-- The product of a number and a positive whole number, which is rounded first. -/
def scale (value : Floating) (factor : Nat) : Floating :=
  match value, Double.ofRatio factor 1 with
  | number sign (.finite first power), .finite second exponent =>
    number sign (nearest (first * second) (power + exponent))
  | number sign _, _ => number sign .infinite
  | undefined, _ => undefined

end Floating

end IfChains
