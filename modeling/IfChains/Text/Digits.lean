/-
**Digits and blanks of all scripts.**

A number can be written with the decimal digits of any script and stand between blanks of any kind.
`CodePoints.asDecimal` turns such a text into one of plain digits and spaces, up to the first
character that is neither, by the tables of Unicode 14.
-/

import IfChains.Text.Table

namespace IfChains

namespace CodePoints

/-- The zeros of the scripts; the other nine digits follow each. -/
def zeroWords : String :=
  "660 6f0 7c0 966 9e6 a66 ae6 b66 be6 c66 ce6 d66 de6 e50 ed0 f20 1040 1090 17e0 1810 1946
    19d0 1a80 1a90 1b50 1bb0 1c40 1c50 a620 a8d0 a900 a9d0 a9f0 aa50 abf0 ff10 104a0 10d30 11066
    110f0 11136 111d0 112f0 11450 114d0 11650 116c0 11730 118e0 11950 11c50 11d50 11da0 16a60
    16ac0 16b50 1d7ce 1d7d8 1d7e2 1d7ec 1d7f6 1e140 1e2f0 1e950 1fbf0"

/-- The zeros of the scripts. -/
def zeros : List Nat :=
  (Table.words zeroWords).map Table.ofHex

/-- The value of a decimal digit of a script other than that of ASCII. -/
def scriptDigit? (point : Nat) : Option Nat :=
  (zeros.find? fun first => first ≤ point && point < first + 10).map (point - ·)

/-- Whether a code point beyond ASCII is a blank. -/
def isScriptBlank (point : Nat) : Bool :=
  point == 0x85 || point == 0xA0 || point == 0x1680 || 0x2000 ≤ point && point ≤ 0x200A ||
    [0x2028, 0x2029, 0x202F, 0x205F, 0x3000].contains point

/-- The characters of a text up to the first that is not in ASCII and neither a digit nor a blank;
that one is a question mark. -/
def plainDigits : CodePoints → List Char
  | [] => []
  | point :: rest =>
    if point < 127 then Char.ofNat point :: plainDigits rest
    else if isScriptBlank point then ' ' :: plainDigits rest
    else match scriptDigit? point with
      | some value => Char.ofNat (48 + value) :: plainDigits rest
      | none => ['?']

/-- A text as one of plain digits and spaces. -/
def asDecimal (text : CodePoints) : List Char :=
  if text.all (· < 128) then text.map Char.ofNat else plainDigits text

end CodePoints

end IfChains
