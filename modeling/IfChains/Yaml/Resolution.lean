/-
**The tag that a plain scalar calls for.**

A plain scalar is a truth value, a number, a date, nothing, or one of two marks if its text has the
form of one, and a text otherwise. The forms are those of YAML 1.1.
-/

import IfChains.Yaml.Timestamp

namespace IfChains

namespace Yaml

namespace Tag

/-- What the tags of the common types begin with. -/
def start : String := "tag:yaml.org,2002:"

def null : String := start ++ "null"
def truth : String := start ++ "bool"
def integer : String := start ++ "int"
def float : String := start ++ "float"
def text : String := start ++ "str"
def date : String := start ++ "timestamp"
def bytes : String := start ++ "binary"
def ordered : String := start ++ "omap"
def pairs : String := start ++ "pairs"
def set : String := start ++ "set"
def merge : String := start ++ "merge"
def value : String := start ++ "value"
def yaml : String := start ++ "yaml"
def sequence : String := start ++ "seq"
def mapping : String := start ++ "map"

end Tag

section Forms

/-- A text without a sign at its beginning. -/
def unsigned : List Char → List Char
  | '+' :: rest => rest
  | '-' :: rest => rest
  | chars => chars

/-- Whether a character is a digit or separates digits. -/
def isDigitMark (char : Char) : Bool :=
  char.isDigit || char == '_'

/-- Whether some characters are a digit and then digits and separators. -/
def isDigits : List Char → Bool
  | first :: rest => first.isDigit && rest.all isDigitMark
  | [] => false

/-- Whether a text is that of a number of minutes or seconds. -/
def isSixtieth : List Char → Bool
  | [digit] => digit.isDigit
  | [tens, digit] => '0' ≤ tens && tens ≤ '5' && digit.isDigit
  | _ => false

/-- Whether a text is that of a truth value. -/
def isTruth (text : String) : Bool :=
  ["yes", "Yes", "YES", "no", "No", "NO", "true", "True", "TRUE", "false", "False", "FALSE", "on",
    "On", "ON", "off", "Off", "OFF"].contains text

/-- Whether a text is that of an exponent behind its letter. -/
def isExponent : List Char → Bool
  | 'e' :: sign :: digits | 'E' :: sign :: digits =>
    (sign == '+' || sign == '-') && !digits.isEmpty && digits.all Char.isDigit
  | [] => true
  | _ => false

/-- Whether a text is that of the part of a number behind its point. -/
def isFraction (chars : List Char) : Bool :=
  isExponent (chars.dropWhile isDigitMark)

/-- Whether a text is that of a floating-point number. -/
def isFloat (chars : List Char) : Bool :=
  let number := unsigned chars
  let whole := number.takeWhile (· != '.')
  let named := String.ofList (number.drop 1)
  match number.dropWhile (· != '.') with
  | [] => false
  | _ :: fraction =>
    match partsBetween ':' whole with
    | [] => false
    | [digits] =>
      if digits.isEmpty then
        number == chars && isFraction fraction && (fraction.head?.any Char.isDigit) ||
          ["inf", "Inf", "INF"].contains named ||
          number == chars && ["nan", "NaN", "NAN"].contains named
      else isDigits digits && isFraction fraction
    | first :: others =>
      isDigits first && others.all isSixtieth && fraction.all isDigitMark

/-- Whether a text is that of an integer. -/
def isInteger (chars : List Char) : Bool :=
  match unsigned chars with
  | ['0'] => true
  | '0' :: 'b' :: digits =>
    !digits.isEmpty && digits.all fun char => ['0', '1', '_'].contains char
  | '0' :: 'x' :: digits =>
    !digits.isEmpty && digits.all fun char =>
      isDigitMark char || 'a' ≤ char && char ≤ 'f' || 'A' ≤ char && char ≤ 'F'
  | '0' :: digits => digits.all fun char => '0' ≤ char && char ≤ '7' || char == '_'
  | number =>
    match partsBetween ':' number with
    | first :: others => isDigits first && others.all isSixtieth
    | [] => false

/-- Whether a text is that of nothing. -/
def isNull (text : String) : Bool :=
  ["", "~", "null", "Null", "NULL"].contains text

end Forms

/-- The tag that a plain scalar calls for. -/
def Tag.ofPlain (text : String) : String :=
  let chars := text.toList
  if isTruth text then Tag.truth
  else if isFloat chars then Tag.float
  else if isInteger chars then Tag.integer
  else if text == "<<" then Tag.merge
  else if isNull text then Tag.null
  else if Timestamp.isPlain chars then Tag.date
  else if text == "=" then Tag.value
  else if ["!", "&", "*"].contains text then Tag.yaml
  else Tag.text

example : Tag.ofPlain "0x1F" = Tag.integer := by decide +kernel
example : Tag.ofPlain "08" = Tag.text := by decide +kernel
example : Tag.ofPlain "1e5" = Tag.text := by decide +kernel
example : Tag.ofPlain "1.5e+5" = Tag.float := by decide +kernel
example : Tag.ofPlain "190:20:30" = Tag.integer := by decide +kernel
example : Tag.ofPlain "-.inf" = Tag.float := by decide +kernel
example : Tag.ofPlain "-.5" = Tag.text := by decide +kernel
example : Tag.ofPlain "2001-12-14 21:59:43.10 -5" = Tag.date := by decide +kernel

end Yaml

end IfChains
