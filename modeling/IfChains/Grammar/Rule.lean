/-
**The rules of the grammar that refer to one another.**

The grammar is read top down, alternative by alternative. A rule that stands on a cycle of the
grammar, or whose result at a place is worth keeping, has a name in `Rule`; the others are plain
definitions. `Rule.kept` marks the rules whose result at each token is remembered.
-/

namespace IfChains

/-- The rules of the grammar that refer to one another. -/
inductive Rule
  -- statements
  | statements | simpleStatements | simpleStatement | block | elifStatement
  | exceptBlock | exceptStarBlock
  -- expressions
  | expressions | expression | undiagnosed | starExpressions | starExpression
  | starNamedExpressions | starNamedExpression | assignmentExpression | namedExpression
  | misnamedExpression | yieldExpression
  | disjunction | conjunction | inversion | bitOr | bitXor | bitAnd | shift | sum | term | factor
  | awaitPrimary | primary | atom | list | tuple | generator | texts | slices
  | forIfClauses | arguments | args | kwargs | starredExpression
  -- targets
  | starTargets | starTarget | targetWithStar | singleTarget | targetPrimary | deleteTargets
  | deleteTarget | misannotatedTarget
  -- patterns
  | pattern | closedPattern | starPattern | maybeStarPattern | qualifiedName
deriving DecidableEq, Repr

namespace Rule

/-- Whether the result of a rule at a place is remembered. -/
def kept : Rule → Bool
  | simpleStatement | block | expression | starExpression | misnamedExpression | disjunction
  | conjunction | inversion | bitOr | bitXor | bitAnd | shift | sum | term | factor | awaitPrimary
  | primary | texts | arguments | starTarget | targetWithStar | targetPrimary | deleteTarget
  | closedPattern | starPattern | qualifiedName => true
  | _ => false

end Rule

end IfChains
