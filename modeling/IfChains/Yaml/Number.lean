/-
**Numbers that are tagged as such.**

A text that is tagged as an integer or as a floating-point number need not have the form that an
untagged one has: its parts may have a sign of their own, stand between blanks, and be written with
the digits of any script. Underscores do not count, and colons separate sixtieths.
-/

import IfChains.Numeral.Floating
import IfChains.Numeral.Whole
import IfChains.Text.Case
import IfChains.Text.Digits
import IfChains.Yaml.Fault
import IfChains.Yaml.Resolution
import IfChains.Yaml.ScalarText

namespace IfChains

namespace Yaml

section Forms

/-- Whether a character is a blank that may stand around a number. -/
def isOuterBlank (char : Char) : Bool :=
  char == ' ' || '\t' ≤ char && char ≤ '\r'

/-- A text without the blanks around it. -/
def stripped (chars : List Char) : List Char :=
  ((chars.dropWhile isOuterBlank).reverse.dropWhile isOuterBlank).reverse

/-- The text without underscores. -/
def withoutMarks (text : CodePoints) : CodePoints :=
  text.filter (· ≠ 0x5F)

/-- Whether a text begins with a minus sign, and the text without its sign. -/
def splitSign (text : CodePoints) : Bool × CodePoints :=
  match text with
  | 0x2D :: rest => (true, rest)
  | 0x2B :: rest => (false, rest)
  | points => (false, points)

/-- The parts of a text between colons. -/
def sixtieths (text : CodePoints) : List CodePoints :=
  text.foldr (fun point parts =>
    match parts with
    | part :: others => if point = 0x3A then [] :: parts else (point :: part) :: others
    | [] => [[point]]) [[]]

end Forms

section Integers

/-- The letter behind a zero that may stand in front of digits of a base. -/
def baseLetter : Nat → Option Char
  | 2 => some 'b'
  | 8 => some 'o'
  | 16 => some 'x'
  | _ => none

/-- Digits of a base without the zero and the letter that may stand in front of them. -/
def withoutLetter (base : Nat) (chars : List Char) : List Char :=
  match chars with
  | '0' :: letter :: rest => if some letter.toLower = baseLetter base then rest else chars
  | _ => chars

/-- The integer that a text spells in a base, with a sign and between blanks. -/
def integerIn (base : Nat) (text : CodePoints) : Except YamlFault Int := do
  let chars := (CodePoints.asDecimal text).dropWhile isOuterBlank
  let digits := withoutLetter base (unsigned chars)
  let isDigit := fun char => (digitValue? char).any (· < base)
  let run := digits.takeWhile isDigit
  if base = 10 && Whole.digitLimit < run.length then throw (.tooManyDigits run.length)
  if run.isEmpty || (digits.drop run.length).any (!isOuterBlank ·) then
    throw (.integer base text)
  let value : Int := run.foldl (fun value char => base * value + (digitValue? char).getD 0) 0
  return if chars.head? = some '-' then -value else value

/-- The integer that a text without underscores and without its sign spells. -/
def unsignedInteger (text : CodePoints) : Except YamlFault Int :=
  match text with
  | [] => .error .noDigits
  | [0x30] => .ok 0
  | 0x30 :: 0x62 :: digits => integerIn 2 digits
  | 0x30 :: 0x78 :: digits => integerIn 16 digits
  | 0x30 :: _ => integerIn 8 text
  | _ =>
    if text.contains 0x3A then do
      let parts ← (sixtieths text).mapM (integerIn 10)
      return parts.foldl (fun value part => 60 * value + part) 0
    else integerIn 10 text

/-- The integer that a text spells. -/
def integer (text : CodePoints) : Except YamlFault Int := do
  let points := withoutMarks text
  if points.isEmpty then throw .noDigits
  let (negative, rest) := splitSign points
  let value ← unsignedInteger rest
  return if negative then -value else value

end Integers

section Fractions

/-- The number that digits spell, if there are only digits, at least one. -/
def digits? (chars : List Char) : Option Nat :=
  if chars.isEmpty || !chars.all Char.isDigit then none
  else some (chars.foldl (fun value char => 10 * value + (char.toNat - 48)) 0)

/-- The magnitude that a decimal without a sign spells. -/
def decimal? (chars : List Char) : Option Double :=
  let mantissa := chars.takeWhile (· != 'e')
  let whole := mantissa.takeWhile (· != '.')
  let fraction := (mantissa.dropWhile (· != '.')).drop 1
  let power : Option Int := match chars.dropWhile (· != 'e') with
    | [] => some 0
    | _ :: exponent =>
      (digits? (unsigned exponent)).map fun value =>
        if exponent.head? == some '-' then -(value : Int) else value
  match digits? (whole ++ fraction), power with
  | some digits, some power => some (Double.ofDecimal digits (power - fraction.length))
  | _, _ => none

/-- The number that a text spells, with a sign and between blanks. -/
def fraction (text : CodePoints) : Except YamlFault Floating :=
  let chars := stripped (CodePoints.asDecimal text)
  let number := unsigned chars
  let negative := chars.head? == some '-'
  if ["inf", "infinity"].contains (String.ofList number) then .ok (.number negative .infinite)
  else if String.ofList number = "nan" then .ok .undefined
  else match decimal? number with
    | some magnitude => .ok (.number negative magnitude)
    | none => .error (.float text)

/-- The sum of sixtieths, the last of which are ones; each step is rounded. -/
def sumOfSixtieths (parts : List Floating) : Floating :=
  (parts.reverse.foldl (fun (sum, unit) part => (sum.add (part.scale unit), 60 * unit))
    ((Floating.zero, 1) : Floating × Nat)).1

/-- The floating-point number that a text spells. -/
def floating (text : CodePoints) : Except YamlFault Floating := do
  let points := Case.smalls (withoutMarks text)
  if points.isEmpty then throw .noDigits
  let (negative, rest) := splitSign points
  let value ←
    if rest = CodePoints.ofString ".inf" then pure (.number false .infinite)
    else if rest = CodePoints.ofString ".nan" then pure .undefined
    else if rest.contains 0x3A then do
      let parts ← (sixtieths rest).mapM fraction
      pure (sumOfSixtieths parts)
    else fraction rest
  return if negative then value.negate else value

end Fractions

/-- The truth value that a text spells. -/
def truth (text : CodePoints) : Except YamlFault Bool :=
  let small := Case.smalls text
  if ["yes", "true", "on"].any fun word => small = CodePoints.ofString word then .ok true
  else if ["no", "false", "off"].any fun word => small = CodePoints.ofString word then .ok false
  else .error (.truth small)

end Yaml

end IfChains
