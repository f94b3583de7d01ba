/-
**Text as a sequence of code points.**

A string constant may hold code points that are no character (a half of a surrogate pair), so its
value is a list of numbers.
-/

namespace IfChains

/-- A sequence of code points, surrogate halves included. -/
abbrev CodePoints := List Nat

namespace CodePoints

/-- The code points of a text of characters. -/
def ofString (text : String) : CodePoints :=
  text.toList.map Char.toNat

/-- Whether a code point is a half of a surrogate pair. -/
def isHalf (point : Nat) : Bool :=
  0xD800 ≤ point && point < 0xE000

/-- The code points with each pair of halves joined. -/
def joinHalves : CodePoints → CodePoints
  | high :: low :: rest =>
    if 0xD800 ≤ high && high < 0xDC00 && 0xDC00 ≤ low && low < 0xE000 then
      (0x10000 + 1024 * (high - 0xD800) + (low - 0xDC00)) :: joinHalves rest
    else high :: joinHalves (low :: rest)
  | points => points

/-- The text that the code points spell; a code point that is no character becomes U+FFFD. -/
def toText (points : CodePoints) : String :=
  String.ofList ((joinHalves points).map fun point =>
    if point.isValidChar then Char.ofNat point else Char.ofNat 0xFFFD)

end CodePoints

end IfChains
