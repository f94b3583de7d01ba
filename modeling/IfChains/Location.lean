/-
**Places in a source text and the short labels that diagnostics end with.**

A `Position` counts lines from one and columns from zero, a column being a number of UTF-8 bytes.
A label is `L<line>` or `L<line>C<column>`; an absent or zero line gives no label at all, and an
absent or zero column is left out.
-/

namespace IfChains

/-- A place in a source text: the line from one, the column in UTF-8 bytes from zero. -/
structure Position where
  line : Nat
  column : Nat
deriving DecidableEq, Repr, Inhabited

namespace Position

/-- The order of places in a text: by line, then by column. -/
def before (first second : Position) : Bool :=
  first.line < second.line || first.line == second.line && first.column ≤ second.column

end Position

/-- The place a diagnostic cites; line zero stands for "no place". -/
structure Location where
  line : Int := 0
  column : Int := 0
deriving DecidableEq, Repr, Inhabited

namespace Location

/-- The label of a place whose parts may be missing. -/
def labelOf (line column : Option Int) : String :=
  if line.getD 0 = 0 then ""
  else if column.getD 0 = 0 then "L" ++ toString (line.getD 0)
  else "L" ++ toString (line.getD 0) ++ "C" ++ toString (column.getD 0)

/-- The label of a place. -/
def label (location : Location) : String :=
  labelOf location.line location.column

/-- The location of a node that has a position, and "no place" for one that has none. -/
def ofPosition : Option Position → Location
  | some position => ⟨position.line, position.column⟩
  | none => ⟨0, 0⟩

/-- The label is empty exactly when the line is zero. -/
theorem label_eq_empty_iff (location : Location) : location.label = "" ↔ location.line = 0 := by
  unfold label labelOf
  simp only [Option.getD_some]
  split
  · simp_all
  · split <;> simp_all [← String.toList_inj]

end Location

end IfChains
