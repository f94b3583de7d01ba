/-
**Reading a program.**

`Source.read` turns a text into the tree of its statements, `Source.readExpression` turns one into
the tree of a single expression. The rules of the grammar call one another through a table; a bound
on the depth of those calls, which no text of its length reaches, makes the table total.
-/

import IfChains.Grammar.Statement

namespace IfChains

namespace Source

open Grammar Reading

section Rules

/-- The result of a rule that reads one tree. -/
def single (phrase : Reading SourceTree) : Reading (List SourceTree) := do
  return [← phrase]

/-- What a rule reads. -/
def phraseOf : Rule → Reading (List SourceTree)
  | .statements => statements
  | .simpleStatements => simpleStatements
  | .simpleStatement => single simpleStatement
  | .block => block
  | .elifStatement => ifStatement .elifHead "elif"
  | .exceptBlock => exceptBlock
  | .exceptStarBlock => exceptStarBlock
  | .expressions => single (tupleOf .expression)
  | .expression => single expression
  | .undiagnosed => single (undiagnosed soundExpression)
  | .starExpressions => single (tupleOf .starExpression)
  | .starExpression => single (starredOr (one .expression))
  | .starNamedExpressions => starNamedExpressions
  | .starNamedExpression => single (starredOr (one .namedExpression))
  | .assignmentExpression => single assignmentExpression
  | .namedExpression => single namedExpression
  | .misnamedExpression => single misnamedExpression
  | .yieldExpression => single yieldExpression
  | .disjunction => single (joinedBy "or" .or .conjunction)
  | .conjunction => single (joinedBy "and" .and .inversion)
  | .inversion => single inversion
  | .bitOr => single (leftGrouped [("|", .bitOr)] .bitXor)
  | .bitXor => single (leftGrouped [("^", .bitXor)] .bitAnd)
  | .bitAnd => single (leftGrouped [("&", .bitAnd)] .shift)
  | .shift => single (leftGrouped [("<<", .leftShift), (">>", .rightShift)] .sum)
  | .sum => single (leftGrouped [("+", .add), ("-", .sub)] .term)
  | .term => single (leftGrouped
      [("*", .mult), ("/", .div), ("//", .floorDiv), ("%", .mod), ("@", .matMult)] .factor)
  | .factor => single factor
  | .awaitPrimary => single awaitPrimary
  | .primary => single primary
  | .atom => single atom
  | .list => single list
  | .tuple => single tuple
  | .generator => single generator
  | .texts => single texts
  | .slices => single slices
  | .forIfClauses => several forIfClause
  | .arguments => arguments
  | .args => args
  | .kwargs => kwargs
  | .starredExpression => single starredExpression
  | .starTargets => single starTargets
  | .starTarget => single starTarget
  | .targetWithStar => single targetWithStar
  | .singleTarget => single singleTarget
  | .targetPrimary => single targetPrimary
  | .deleteTargets => deleteTargets
  | .deleteTarget => single deleteTarget
  | .misannotatedTarget => single misannotatedTarget
  | .pattern => single pattern
  | .closedPattern => single closedPattern
  | .starPattern => single starPattern
  | .maybeStarPattern => single maybeStarPattern
  | .qualifiedName => single qualifiedName

/-- The rules, which call one another down to a depth. -/
def rules : (depth : Nat) → RuleTable
  | 0 => fun _ state => (.error .noMatch, state)
  | depth + 1 => fun name state =>
    let phrase := if name.kept then remembered name (phraseOf name) else phraseOf name
    phrase (rules depth) state

end Rules

section Texts

/-- The statements of a program up to the end of its text. -/
def program : Reading SourceTree := do
  let statements ← attempt (rule .statements)
  let _ ← kind .endOfText
  return part .module (each .body (statements.getD []))

/-- An expression up to the end of its text. -/
def soleExpression : Reading SourceTree := do
  let value ← one .expressions
  let _ ← many (kind .newline)
  let _ ← kind .endOfText
  return value

/-- Reads a whole text as a phrase. -/
def readAs (phrase : Reading SourceTree) (origin : Origin) (text : List Char) :
    Except SyntaxFailure SourceTree :=
  whole phrase (rules (64 * (text.length + 2)))
    { ReadingState.ofText text with origin := origin }

/-- The tree of a program. -/
def read (origin : Origin) (text : String) : Except SyntaxFailure SourceTree :=
  readAs program origin (Lexer.asLines text.toList)

/-- The tree of an expression. -/
def readExpression (text : String) : Except SyntaxFailure SourceTree :=
  readAs soleExpression .loose (Lexer.unifyBreaks text.toList)

end Texts

end Source

end IfChains
