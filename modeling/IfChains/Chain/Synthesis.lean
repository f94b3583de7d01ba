/-
**The conditional expression that a chain stands for.**

A branch without expressions is undefined, one expression stands for itself, and several are a
sequence.
-/

import IfChains.Chain.Walk

namespace IfChains

namespace Synthesis

open Walk

/-- The expression of a branch. -/
def branch : List NodeId → Walk NodeId
  | [] => undefined
  | [expr] => return expr
  | exprs => sequence exprs

/-- The conditional expression of a chain's condition and branches. -/
def conditional (branches : BranchSet NodeId) (condition : NodeId) : Walk NodeId := do
  let consequent ← branch branches.consequent
  let alternate ← branch branches.alternate
  Walk.conditional condition consequent alternate

end Synthesis

end IfChains
