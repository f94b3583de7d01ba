/-
**Line breaks of text files.**

A text file may end its lines with a line feed, a carriage return, or both; what is read from it has
line feeds only.
-/

namespace IfChains

/-- A text with a line feed for each line break. -/
def unifyBreaks : List Char → List Char
  | [] => []
  | '\r' :: '\n' :: rest => '\n' :: unifyBreaks rest
  | char :: rest => (if char = '\r' then '\n' else char) :: unifyBreaks rest

end IfChains
