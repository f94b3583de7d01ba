/-
**Tables as texts of words.**

A table with many entries is a text of words between blanks and line breaks. Most words are numbers
in hexadecimal, or numbers with marks between.
-/

import IfChains.Text.CodePoints

namespace IfChains

namespace Table

/-- The value of a hexadecimal digit. -/
def hexDigit (char : Char) : Nat :=
  if char.isDigit then char.toNat - 48
  else if 'a' ≤ char && char ≤ 'f' then char.toNat - 87
  else char.toNat - 55

/-- The number a hexadecimal word spells. -/
def ofHex (word : List Char) : Nat :=
  word.foldl (fun value char => 16 * value + hexDigit char) 0

/-- The parts of a text between separators. -/
def parts (separator : Char) : List Char → List (List Char)
  | [] => [[]]
  | char :: rest =>
    if char = separator then [] :: parts separator rest
    else match parts separator rest with
      | first :: others => (char :: first) :: others
      | [] => [[char]]

/-- The words of a text. -/
def words (text : String) : List (List Char) :=
  (parts ' ' (text.toList.map fun char => if char = '\n' then ' ' else char)).filter
    fun word => !word.isEmpty

end Table

end IfChains
