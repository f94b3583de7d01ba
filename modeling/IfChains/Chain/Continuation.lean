/-
**The members that continue a chain.**

A chain goes on through members named `then`, `then_do`, `else_`, `else_do` and `else_if`, and ends
with `end` or `end_`.

* `ofKeyword?_keyword`: a keyword names one continuation.
-/

namespace IfChains

/-- What a member of a chain does. -/
inductive Continuation
  | andThen | thenDo | orElse | elseDo | elseIf | finish | finishMarked
deriving DecidableEq, Repr

namespace Continuation

/-- All continuations. -/
def all : List Continuation :=
  [andThen, thenDo, orElse, elseDo, elseIf, finish, finishMarked]

/-- The member that names a continuation. -/
def keyword : Continuation → String
  | andThen => "then"
  | thenDo => "then_do"
  | orElse => "else_"
  | elseDo => "else_do"
  | elseIf => "else_if"
  | finish => "end"
  | finishMarked => "end_"

/-- The continuation that a member names. -/
def ofKeyword? (member : String) : Option Continuation :=
  all.find? fun continuation => continuation.keyword == member

/-- Whether a continuation ends its chain. -/
def isTerminal : Continuation → Bool
  | finish | finishMarked => true
  | _ => false

/-- Whether a continuation takes exactly one argument. -/
def takesSingle : Continuation → Bool
  | andThen | orElse | elseIf => true
  | _ => false

/-- A keyword names one continuation. -/
theorem ofKeyword?_keyword (continuation : Continuation) :
    ofKeyword? continuation.keyword = some continuation := by
  cases continuation <;> decide

end Continuation

end IfChains
