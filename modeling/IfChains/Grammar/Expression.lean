/-
**Expressions.**

From loose to tight: conditional expressions and `lambda`, `or`, `and`, `not`, comparisons, the
binary operators in six levels, signs, powers, `await`, and primary expressions. A binary operator
takes its left operand as far as it goes; a power and a sign take their right one.
-/

import IfChains.Grammar.Argument
import IfChains.Grammar.Literal
import IfChains.Grammar.Parameter

namespace IfChains

namespace Grammar

open Reading

section Operators

/-- Operands joined by a keyword, or a single operand. -/
def joinedBy (keyword : String) (operator : BoolOperator) (operand : Rule) :
    Reading SourceTree := do
  let place ← place
  let first ← one operand
  match ← many (do let _ ← mark keyword; one operand) with
  | [] => return first
  | others => return tree place (.boolOp operator) (each .values (first :: others))

/-- Operands joined by operators that group to the left. -/
def leftGrouped (operators : List (String × BinaryOperator)) (operand : Rule) :
    Reading SourceTree := do
  let place ← place
  let first ← one operand
  grown (fun left => do
    let token ← markOf (operators.map (·.1))
    let right ← one operand
    match operators.lookup token.spelling with
    | some operator => return tree place (.binOp operator) [(.left, left), (.right, right)]
    | none => noMatch) first

/-- A mark or a pair of words that compares. -/
def comparison : Reading Comparison :=
  choice [
    do let _ ← mark "=="; return .eq,
    do let _ ← mark "!="; return .notEq,
    do let _ ← mark "<="; return .ltEq,
    do let _ ← mark "<"; return .lt,
    do let _ ← mark ">="; return .gtEq,
    do let _ ← mark ">"; return .gt,
    do let _ ← mark "not"; let _ ← mark "in"; return .notIn,
    do let _ ← mark "in"; return .isIn,
    do let _ ← mark "is"; let _ ← mark "not"; return .isNot,
    do let _ ← mark "is"; return .is]

/-- Operands that are compared, or a single operand. -/
def compared : Reading SourceTree := do
  let place ← place
  let first ← one .bitOr
  match ← many (do return (← comparison, ← one .bitOr)) with
  | [] => return first
  | others =>
    return tree place (.compare (others.map (·.1)))
      ((.left, first) :: each .comparators (others.map (·.2)))

/-- A negation of a truth value, or a comparison. -/
def inversion : Reading SourceTree := do
  let place ← place
  choice [
    do
      let _ ← mark "not"
      return tree place (.unaryOp .not) [(.operand, ← one .inversion)],
    compared]

/-- A sign and its operand, or a power. -/
def factor : Reading SourceTree := do
  let place ← place
  choice [
    do
      let _ ← mark "+"
      return tree place (.unaryOp .plus) [(.operand, ← one .factor)],
    do
      let _ ← mark "-"
      return tree place (.unaryOp .minus) [(.operand, ← one .factor)],
    do
      let _ ← mark "~"
      return tree place (.unaryOp .invert) [(.operand, ← one .factor)],
    do
      let left ← one .awaitPrimary
      let _ ← mark "**"
      let right ← one .factor
      return tree place (.binOp .pow) [(.left, left), (.right, right)],
    one .awaitPrimary]

/-- A primary expression that may be awaited. -/
def awaitPrimary : Reading SourceTree := do
  let place ← place
  choice [
    do
      let _ ← mark "await"
      return tree place .await [(.value, ← one .primary)],
    one .primary]

/-- An atom with members, calls and subscripts behind it. -/
def primary : Reading SourceTree := do
  let place ← place
  let first ← one .atom
  grown (fun value => choice [
    memberSuffix place .load value,
    generatorSuffix place value,
    callSuffix place value,
    subscriptSuffix place .load value]) first

end Operators

section Subscripts

/-- One index or range of a subscript. -/
def slice : Reading SourceTree := do
  let place ← place
  choice [
    do
      let lower ← attempt (one .expression)
      let _ ← mark ":"
      let upper ← attempt (one .expression)
      let step ← attempt (do let _ ← mark ":"; attempt (one .expression))
      return tree place .slice (optional .lower lower ++ optional .upper upper ++
        optional .step step.join),
    one .namedExpression]

/-- What stands between the brackets of a subscript. -/
def slices : Reading SourceTree := do
  let place ← place
  choice [
    do
      let only ← slice
      notAhead (mark ",")
      return only,
    do
      let parts ← separated (mark ",") (choice [slice, one .starredExpression])
      let _ ← attempt (mark ",")
      return tree place (.tuple .load) (each .elts parts)]

end Subscripts

section Displays

/-- One `for` of a comprehension with its conditions. -/
def forIfClause : Reading SourceTree :=
  choice [clause true, clause false, diagnosis misplacedLoop]
where
  /-- A clause of one kind. -/
  clause (async : Bool) : Reading SourceTree := do
    if async then ignored (mark "async")
    let _ ← mark "for"
    let target ← one .starTargets
    let _ ← mark "in"
    let iter ← committed (one .disjunction)
    let conditions ← many (do let _ ← mark "if"; one .disjunction)
    return part (.comprehension async)
      ((.target, target) :: (.iter, iter) :: each .ifs conditions)
  /-- Finds out what is wrong with the targets of a loop. -/
  misplacedLoop : Reading SourceTree := do
    let _ ← attempt (mark "async")
    let _ ← mark "for"
    faultOnTarget .looped (← one .starExpressions)

/-- Finds out what is wrong with a comprehension. -/
def misplacedComprehension : Reading SourceTree :=
  choice [
    do
      let _ ← markOf ["[", "(", "\x7b"]
      let value ← one .starredExpression
      let _ ← rule .forIfClauses
      faultOn value .unpackingInComprehension,
    do
      let _ ← markOf ["[", "\x7b"]
      let value ← one .starNamedExpression
      let _ ← mark ","
      let _ ← rule .starNamedExpressions
      let _ ← rule .forIfClauses
      faultOn value .unparenthesizedTarget,
    do
      let _ ← markOf ["[", "\x7b"]
      let value ← one .starNamedExpression
      let _ ← mark ","
      let _ ← rule .forIfClauses
      faultOn value .unparenthesizedTarget]

/-- A list display. -/
def list : Reading SourceTree := do
  let place ← place
  let _ ← mark "["
  let values ← attempt (rule .starNamedExpressions)
  let _ ← mark "]"
  return tree place (.list .load) (each .elts (values.getD []))

/-- A comprehension between brackets. -/
def comprehension (opening closing : String) (label : Label) (element : Reading SourceTree) :
    Reading SourceTree := do
  let place ← place
  choice [
    do
      let _ ← mark opening
      let value ← element
      let clauses ← rule .forIfClauses
      let _ ← mark closing
      return tree place label ((.elt, value) :: each .generators clauses),
    diagnosis misplacedComprehension]

/-- A tuple display. -/
def tuple : Reading SourceTree := do
  let place ← place
  let _ ← mark "("
  let values ← attempt do
    let first ← one .starNamedExpression
    let _ ← mark ","
    let others ← attempt (rule .starNamedExpressions)
    return first :: others.getD []
  let _ ← mark ")"
  return tree place (.tuple .load) (each .elts (values.getD []))

/-- An expression in brackets. -/
def group : Reading SourceTree :=
  choice [
    do
      let _ ← mark "("
      let value ← choice [one .yieldExpression, one .namedExpression]
      let _ ← mark ")"
      return value,
    diagnosis do
      let _ ← mark "("
      let value ← one .starredExpression
      let _ ← mark ")"
      faultOn value .starredHere,
    diagnosis do
      let _ ← mark "("
      let sign ← mark "**"
      let _ ← one .expression
      let _ ← mark ")"
      faultOnToken sign .doubleStarredHere]

/-- A generator expression. -/
def generator : Reading SourceTree :=
  comprehension "(" ")" .generatorExp plainArgument

/-- A set display. -/
def set : Reading SourceTree := do
  let place ← place
  let _ ← mark "\x7b"
  let values ← rule .starNamedExpressions
  let _ ← mark "\x7d"
  return tree place .set (each .elts values)

/-- A key and its value. -/
def keyedValue : Reading (Option SourceTree × SourceTree) := do
  let key ← one .expression
  let _ ← mark ":"
  return (some key, ← one .expression)

/-- An entry of a dictionary display. -/
def entry : Reading (Option SourceTree × SourceTree) :=
  choice [
    do
      let _ ← mark "**"
      return (none, ← one .bitOr),
    keyedValue]

/-- Finds out what is wrong with an entry behind others. -/
def misplacedEntry : Reading Unit :=
  choice [
    do
      let first := (← get).position
      let key ← one .expression
      notAhead (mark ":")
      let column ← endOf first key
      raise (failureAt (← get) .colonAfterKey (placeOfTree key).line column),
    misplacedValue]
where
  /-- Finds out what is wrong with the value of an entry. -/
  misplacedValue : Reading Unit :=
    choice [
      do
        let _ ← one .expression
        let _ ← mark ":"
        let star ← mark "*"
        let _ ← one .bitOr
        faultOnToken star .starredValue,
      do
        let _ ← one .expression
        let colon ← mark ":"
        ahead (markOf ["\x7d", ","])
        faultOnToken colon .valueAfterColon]

/-- A dictionary display. -/
def dict : Reading SourceTree := do
  let place ← place
  choice [
    do
      let _ ← mark "\x7b"
      let entries ← attempt do
        let entries ← separated (mark ",") entry
        let _ ← attempt (mark ",")
        return entries
      let _ ← mark "\x7d"
      let entries := entries.getD []
      return tree place (.dict (entries.map (·.1.isSome)))
        (each .keys (entries.filterMap (·.1)) ++ each .values (entries.map (·.2))),
    diagnosis do
      let _ ← mark "\x7b"
      choice [
        do
          let _ ← separated (mark ",") entry
          let _ ← mark ","
          misplacedEntry,
        misplacedEntry.misplacedValue]
      let _ ← mark "\x7d"
      noMatch]

/-- A dictionary comprehension. -/
def dictComprehension : Reading SourceTree := do
  let place ← place
  choice [
    do
      let _ ← mark "\x7b"
      let (key, value) ← keyedValue
      let clauses ← rule .forIfClauses
      let _ ← mark "\x7d"
      return tree place .dictComp
        (optional .key key ++ (.value, value) :: each .generators clauses),
    diagnosis do
      let _ ← mark "\x7b"
      let sign ← mark "**"
      let _ ← one .bitOr
      let _ ← rule .forIfClauses
      let _ ← mark "\x7d"
      faultOnToken sign .dictUnpackingInComprehension]

/-- A name, a constant, or an expression in brackets. -/
def atom : Reading SourceTree := do
  let place ← place
  let constant := fun (token : Reading Token) (value : Constant) => do
    let _ ← token
    return tree place (.constant value) []
  choice [
    do
      let token ← name
      return tree place (.name (nameOf token) .load) [],
    constant (mark "True") .true,
    constant (mark "False") .false,
    constant (mark "None") .none,
    one .texts,
    number,
    do
      ahead (mark "(")
      choice [one .tuple, group, one .generator],
    do
      ahead (mark "[")
      choice [one .list, comprehension "[" "]" .listComp (one .namedExpression)],
    do
      ahead (mark "\x7b")
      choice [dict, set, dictComprehension,
        comprehension "\x7b" "\x7d" .setComp (one .namedExpression)],
    constant (mark "...") .ellipsis]

end Displays

section Expressions

/-- Some phrases with commas between, as one tuple if there is a comma. -/
def tupleOf (element : Rule) : Reading SourceTree := do
  let place ← place
  choice [
    do
      let first ← one element
      let others ← several (do let _ ← mark ","; one element)
      let _ ← attempt (mark ",")
      return tree place (.tuple .load) (each .elts (first :: others)),
    do
      let first ← one element
      let _ ← mark ","
      return tree place (.tuple .load) [(.elts, first)],
    one element]

/-- An unpacking, or a phrase. -/
def starredOr (phrase : Reading SourceTree) : Reading SourceTree := do
  let place ← place
  choice [
    do
      let _ ← mark "*"
      return tree place (.starred .load) [(.value, ← one .bitOr)],
    phrase]

/-- Named expressions and unpackings with commas between and perhaps one behind. -/
def starNamedExpressions : Reading (List SourceTree) := do
  let values ← separated (mark ",") (one .starNamedExpression)
  let _ ← attempt (mark ",")
  return values

/-- A name that is bound to the value of an expression. -/
def assignmentExpression : Reading SourceTree := do
  let place ← place
  choice [
    do
      let token ← name
      let _ ← mark ":="
      let value ← committed (one .expression)
      return tree place .namedExpr
        [(.target, tree place (.name (nameOf token) .store) []), (.value, value)]]

/-- Finds out what is wrong with a named expression. -/
def misnamedExpression : Reading SourceTree :=
  choice [
    do
      let value ← one .expression
      let _ ← mark ":="
      let _ ← one .expression
      faultOn value (.namedTarget (describe value.label)),
    do
      let token ← name
      let _ ← mark "="
      let _ ← one .bitOr
      notAhead (markOf ["=", ":="])
      faultOnToken token .equalSignMeant,
    do
      notAhead (choice [
        ignored (one .list), ignored (one .tuple), ignored (one .generator),
        ignored (markOf ["True", "None", "False"])])
      let value ← one .bitOr
      let _ ← mark "="
      let _ ← one .bitOr
      notAhead (markOf ["=", ":="])
      faultOn value (.cannotAssignHere (describe value.label))]

/-- An expression that may bind a name. -/
def namedExpression : Reading SourceTree :=
  choice [
    one .assignmentExpression,
    diagnosis (one .misnamedExpression),
    do
      let value ← one .expression
      notAhead (mark ":=")
      return value]

/-- A `yield`. -/
def yieldExpression : Reading SourceTree := do
  let place ← place
  choice [
    do
      let _ ← mark "yield"
      let _ ← mark "from"
      return tree place .yieldFrom [(.value, ← one .expression)],
    do
      let _ ← mark "yield"
      let value ← attempt (one .starExpressions)
      return tree place .yield (optional .value value)]

/-- Whether an expression is a name that used to begin a statement. -/
def isOldStatement (value : SourceTree) : Bool :=
  match value.label with
  | .name id _ => id == "print" || id == "exec"
  | _ => false

/-- Finds out what is wrong with an expression. -/
def misplacedExpression : Reading SourceTree :=
  choice [
    do
      notAhead (choice [
        do
          let _ ← name
          ignored (kind .text),
        ignored (tokenThat fun token =>
          token.kind == .name && Token.softKeywords.contains token.spelling)])
      let value ← one .disjunction
      let _ ← one .undiagnosed
      if isOldStatement value then settled
      if (← previous).depth = 0 then settled
      faultOn value .forgotComma,
    do
      let value ← one .disjunction
      let _ ← mark "if"
      let _ ← one .disjunction
      notAhead (markOf ["else", ":"])
      faultOn value .expectedElse]

/-- Finds out whether a name that used to begin a statement is used as one. -/
def oldStatement : Reading SourceTree :=
  choice [
    do
      let place ← place
      let token ← name
      notAhead (mark "(")
      let _ ← one .starExpressions
      if token.spelling = "print" || token.spelling = "exec" then
        faultAt place (.missingCallParentheses token.spelling)
      else settled]

/-- A conditional expression. -/
def conditional : Reading SourceTree := do
  let place ← place
  let body ← one .disjunction
  let _ ← mark "if"
  let test ← one .disjunction
  let _ ← mark "else"
  let orelse ← one .expression
  return tree place .ifExp [(.test, test), (.body, body), (.orelse, orelse)]

/-- A function that is an expression. -/
def lambda : Reading SourceTree := do
  let place ← place
  let _ ← mark "lambda"
  let list ← attempt (parameters ":")
  let _ ← mark ":"
  let body ← one .expression
  return tree place .lambda [(.args, list.getD (ParameterList.node {})), (.body, body)]

/-- An expression in which no fault is diagnosed at its start. -/
def soundExpression : Reading SourceTree :=
  choice [conditional, one .disjunction, lambda]

/-- An expression. -/
def expression : Reading SourceTree :=
  choice [diagnosis misplacedExpression, diagnosis oldStatement, conditional, one .disjunction,
    lambda]

end Expressions

end Grammar

end IfChains
