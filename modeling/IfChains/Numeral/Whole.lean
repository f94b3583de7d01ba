/-
**Whole numbers and their decimal digits.**

A whole number is neither read from more than a few thousand decimal digits nor written with them;
other bases have no such limit.
-/

namespace IfChains

namespace Whole

/-- The most decimal digits that a number is read from or written with. -/
def digitLimit : Nat := 4300

/-- The report on a number beyond the limit; where a number is read, it says how many digits there
are. -/
def limitReport (digits : Option Nat) : String :=
  "Exceeds the limit (" ++ toString digitLimit ++ " digits) for integer string conversion" ++
    (digits.elim "" fun count => ": value has " ++ toString count ++ " digits") ++
    "; use sys.set_int_max_str_digits() to increase the limit"

/-- The decimal digits of a number, unless there are too many. -/
def decimal? (number : Nat) : Option (List Char) :=
  let digits := Nat.toDigits 10 number
  if digitLimit < digits.length then none else some digits

end Whole

end IfChains
