/-
**What the two branches of a chain have gathered.**

A branch is a list of expressions whose last one is its value. `then` and `else_` push a new value;
`then_do` and `else_do` put expressions before the value that is there, or before an undefined
value; `else_if` replaces the alternate branch as a whole.

* `push_frame`, `pushDiscarded_frame`: an operation on one branch leaves the other one alone.
-/

import IfChains.Chain.Continuation

namespace IfChains

/-- The branches of a chain. -/
inductive Branch
  | consequent | alternate
deriving DecidableEq, Repr

/-- A continuation that feeds no branch. -/
structure NoBranch where
  continuation : Continuation
deriving DecidableEq, Repr

namespace NoBranch

/-- The wording of the fault. -/
def message (fault : NoBranch) : String :=
  fault.continuation.keyword ++ " does not feed a branch"

end NoBranch

namespace Branch

/-- The branch that a continuation feeds. -/
def ofContinuation : Continuation → Except NoBranch Branch
  | .andThen | .thenDo => .ok consequent
  | .orElse | .elseDo => .ok alternate
  | continuation => .error ⟨continuation⟩

/-- The other branch. -/
def other : Branch → Branch
  | consequent => alternate
  | alternate => consequent

end Branch

/-- The expressions gathered for the branches of a chain, in order. -/
structure BranchSet (α : Type) where
  consequent : List α := []
  alternate : List α := []
deriving DecidableEq, Repr

namespace BranchSet

variable {α : Type}

/-- The expressions of a branch. -/
def get (branches : BranchSet α) : Branch → List α
  | .consequent => branches.consequent
  | .alternate => branches.alternate

/-- Replaces the expressions of a branch. -/
def set (branches : BranchSet α) (branch : Branch) (exprs : List α) : BranchSet α :=
  match branch with
  | .consequent => { branches with consequent := exprs }
  | .alternate => { branches with alternate := exprs }

/-- Adds an expression that becomes the value of its branch. -/
def push (branches : BranchSet α) (branch : Branch) (expr : α) : BranchSet α :=
  branches.set branch (branches.get branch ++ [expr])

/-- Adds expressions before the value of a branch; an empty branch has an undefined value. -/
def pushDiscarded (branches : BranchSet α) (branch : Branch) (exprs : List α) (undefined : α) :
    BranchSet α :=
  let items := branches.get branch
  branches.set branch (items.dropLast ++ exprs ++ [items.getLastD undefined])

/-- Makes an expression the whole alternate branch. -/
def replaceAlternate (branches : BranchSet α) (expr : α) : BranchSet α :=
  { branches with alternate := [expr] }

section Lemmas

variable (branches : BranchSet α) (branch : Branch)

/-- A branch holds what it was set to. -/
@[simp]
theorem get_set (exprs : List α) : (branches.set branch exprs).get branch = exprs := by
  cases branch <;> rfl

/-- Setting a branch leaves the other one alone. -/
@[simp]
theorem get_set_other (exprs : List α) :
    (branches.set branch exprs).get branch.other = branches.get branch.other := by
  cases branch <;> rfl

/-- Pushing leaves the other branch alone. -/
theorem push_frame (expr : α) :
    (branches.push branch expr).get branch.other = branches.get branch.other := by
  simp [push]

/-- Pushing expressions before the value leaves the other branch alone. -/
theorem pushDiscarded_frame (exprs : List α) (undefined : α) :
    (branches.pushDiscarded branch exprs undefined).get branch.other =
      branches.get branch.other := by
  simp [pushDiscarded]

end Lemmas

end BranchSet

end IfChains
