/-
**Statements.**

Simple statements share a line, with semicolons between; a compound statement has a head that ends
in a colon, and a block: the rest of its line, or lines indented more deeply. When faults are
diagnosed, a missing colon and a missing block are looked for first.
-/

import IfChains.Grammar.Expression
import IfChains.Grammar.Pattern

namespace IfChains

namespace Grammar

open Reading

section Simple

/-- What an augmented assignment does. -/
def augmentations : List (String × BinaryOperator) :=
  [("+=", .add), ("-=", .sub), ("*=", .mult), ("@=", .matMult), ("/=", .div), ("%=", .mod),
    ("&=", .bitAnd), ("|=", .bitOr), ("^=", .bitXor), ("<<=", .leftShift), (">>=", .rightShift),
    ("**=", .pow), ("//=", .floorDiv)]

/-- The sign of an augmented assignment. -/
def augmentation : Reading BinaryOperator := do
  let token ← markOf (augmentations.map (·.1))
  return (augmentations.lookup token.spelling).getD .add

/-- What an assignment assigns. -/
def assignedValue : Reading SourceTree :=
  choice [one .yieldExpression, one .starExpressions]

/-- The value of an annotated assignment, if it has one. -/
def annotatedValue : Reading (Option SourceTree) :=
  attempt do
    let _ ← mark "="
    assignedValue

/-- A display that cannot be annotated, perhaps in brackets. -/
def misannotatedTarget : Reading SourceTree :=
  choice [
    one .list,
    one .tuple,
    do
      let _ ← mark "("
      let target ← one .misannotatedTarget
      let _ ← mark ")"
      return target]

/-- Targets that each have an equals sign behind them. -/
def assignedTargets : Reading SourceTree := do
  let target ← one .starTargets
  let _ ← mark "="
  return target

/-- Finds out what is wrong with an assignment. -/
def misplacedAssignment : Reading SourceTree :=
  choice [
    do
      let target ← one .misannotatedTarget
      let _ ← mark ":"
      let _ ← one .expression
      faultOn target (.annotationTarget (describe target.label)),
    do
      let first ← one .starNamedExpression
      let _ ← mark ","
      let _ ← many (rule .starNamedExpressions)
      let _ ← mark ":"
      let _ ← one .expression
      faultOn first (.annotationTarget "tuple"),
    do
      let target ← one .expression
      let _ ← mark ":"
      let _ ← one .expression
      faultOn target .illegalAnnotationTarget,
    do
      let _ ← many assignedTargets
      let target ← one .starExpressions
      let _ ← mark "="
      faultOnTarget .assigned target,
    do
      let _ ← many assignedTargets
      let target ← one .yieldExpression
      let _ ← mark "="
      faultOn target .assignToYield,
    do
      let target ← one .starExpressions
      let _ ← augmentation
      let _ ← assignedValue
      faultOn target (.illegalAugmented (describe target.label))]

/-- An assignment. -/
def assignment : Reading SourceTree := do
  let place ← place
  choice [
    do
      let token ← name
      let _ ← mark ":"
      let hint ← one .expression
      let value ← annotatedValue
      return tree place (.annAssign true) ((.target, tree place (.name (nameOf token) .store) []) ::
        (.hint, hint) :: optional .value value),
    do
      let target ← choice [
        do
          let _ ← mark "("
          let target ← one .singleTarget
          let _ ← mark ")"
          return target,
        lastSuffix .store]
      let _ ← mark ":"
      let hint ← one .expression
      let value ← annotatedValue
      return tree place (.annAssign false)
        ((.target, target) :: (.hint, hint) :: optional .value value),
    do
      let targets ← several assignedTargets
      let value ← assignedValue
      notAhead (mark "=")
      return tree place .assign (each .targets targets ++ [(.value, value)]),
    do
      let target ← one .singleTarget
      let operator ← augmentation
      let value ← committed assignedValue
      return tree place (.augAssign operator) [(.target, target), (.value, value)],
    diagnosis misplacedAssignment]

/-- A statement that is one word and perhaps an operand. -/
def wordStatement : Reading SourceTree := do
  let place ← place
  choice [
    do
      let _ ← mark "return"
      let value ← attempt (one .starExpressions)
      return tree place .returnStmt (optional .value value),
    do
      let _ ← mark "pass"
      return tree place .passStmt [],
    do
      let _ ← mark "break"
      return tree place .breakStmt [],
    do
      let _ ← mark "continue"
      return tree place .continueStmt []]

/-- A `raise`. -/
def raiseStatement : Reading SourceTree := do
  let place ← place
  let _ ← mark "raise"
  match ← attempt (one .expression) with
  | some exc =>
    let cause ← attempt do
      let _ ← mark "from"
      one .expression
    return tree place .raiseStmt ((.exc, exc) :: optional .cause cause)
  | none => return tree place .raiseStmt []

/-- A `del`. -/
def deleteStatement : Reading SourceTree := do
  let place ← place
  choice [
    do
      let _ ← mark "del"
      let targets ← rule .deleteTargets
      ahead (choice [ignored (mark ";"), ignored (kind .newline)])
      return tree place .deleteStmt (each .targets targets),
    diagnosis do
      let _ ← mark "del"
      faultOnTarget .deleted (← one .starExpressions)]

/-- An `assert`. -/
def assertStatement : Reading SourceTree := do
  let place ← place
  let _ ← mark "assert"
  let test ← one .expression
  let message ← attempt do
    let _ ← mark ","
    one .expression
  return tree place .assertStmt ((.test, test) :: optional .msg message)

/-- A declaration of names. -/
def declaration (keyword : String) (label : List String → Label) : Reading SourceTree := do
  let place ← place
  let _ ← mark keyword
  let names ← separated (mark ",") name
  return tree place (label (names.map nameOf)) []

end Simple

section Imports

/-- A dotted name. -/
def dottedName : Reading String := do
  let parts ← separated (mark ".") name
  return ".".intercalate (parts.map nameOf)

/-- A name that something is imported under. -/
def otherName : Reading (Option String) :=
  attempt do
    let _ ← mark "as"
    return nameOf (← name)

/-- An `import`. -/
def importStatement : Reading SourceTree := do
  let place ← place
  let _ ← mark "import"
  let names ← separated (mark ",") do
    let place ← Reading.place
    let module ← dottedName
    return tree place (.importItem module (← otherName)) []
  return tree place .importStmt (each .names names)

/-- The names imported from a module, without brackets. -/
def importedNames : Reading (List SourceTree) :=
  separated (mark ",") do
    let place ← place
    let token ← name
    return tree place (.importItem (nameOf token) (← otherName)) []

/-- What is imported from a module. -/
def imported : Reading (List SourceTree) := do
  let place ← place
  choice [
    do
      let _ ← mark "("
      let names ← importedNames
      let _ ← attempt (mark ",")
      let _ ← mark ")"
      return names,
    do
      let names ← importedNames
      notAhead (mark ",")
      return names,
    do
      let _ ← mark "*"
      return [tree place (.importItem "*" none) []],
    diagnosis do
      let _ ← importedNames
      let _ ← mark ","
      let _ ← kind .newline
      faultAtLast .trailingComma]

/-- The dots before the name of a module, by their number. -/
def dots (tokens : List Token) : Nat :=
  tokens.foldl (fun count token => count + token.spelling.length) 0

/-- An import from a module. -/
def importFromStatement : Reading SourceTree := do
  let place ← place
  choice [
    do
      let _ ← mark "from"
      let tokens ← many (markOf [".", "..."])
      let module ← dottedName
      let _ ← mark "import"
      let names ← imported
      return tree place (.importFrom (some module) (dots tokens)) (each .names names),
    do
      let _ ← mark "from"
      let tokens ← several (markOf [".", "..."])
      let _ ← mark "import"
      let names ← imported
      return tree place (.importFrom none (dots tokens)) (each .names names)]

/-- A simple statement. -/
def simpleStatement : Reading SourceTree := do
  let place ← place
  choice [
    assignment,
    do return tree place .exprStmt [(.value, ← one .starExpressions)],
    wordStatement,
    importStatement,
    importFromStatement,
    raiseStatement,
    deleteStatement,
    do return tree place .exprStmt [(.value, ← one .yieldExpression)],
    assertStatement,
    declaration "global" .globalStmt,
    declaration "nonlocal" .nonlocalStmt]

/-- The simple statements of a line. -/
def simpleStatements : Reading (List SourceTree) :=
  choice [
    do
      let only ← one .simpleStatement
      notAhead (mark ";")
      let _ ← kind .newline
      return [only],
    do
      let statements ← separated (mark ";") (one .simpleStatement)
      let _ ← attempt (mark ";")
      let _ ← kind .newline
      return statements]

end Imports

section Blocks

/-- A block. -/
def block : Reading (List SourceTree) :=
  choice [
    do
      let _ ← kind .newline
      let _ ← kind .indent
      let statements ← rule .statements
      let _ ← kind .dedent
      return statements,
    rule .simpleStatements,
    diagnosis do
      let _ ← kind .newline
      notAhead (kind .indent)
      faultAtLast .expectedBlock]

/-- Reports a line break in the place of a colon. -/
def colonMissing (head : Reading Unit) : Reading (List SourceTree) :=
  diagnosis do
    head
    let _ ← kind .newline
    faultAtLast (.expected ":")

/-- Reports that no block follows a head, which begins with a given word and has a colon. -/
def blockMissing (opener : BlockOpener) (start : Reading Token) (head : Reading Unit) :
    Reading (List SourceTree) :=
  diagnosis do
    let token ← start
    head
    let _ ← mark ":"
    let _ ← kind .newline
    notAhead (kind .indent)
    faultAtLast (.expectedBlockAfter opener token.line)

/-- Both faults of a head that is a word and a phrase. -/
def misplacedBlock (opener : BlockOpener) (word : String) (head : Reading Unit) :
    List (Reading (List SourceTree)) :=
  [colonMissing (do let _ ← mark word; head), blockMissing opener (mark word) head]

/-- The block behind `else`. -/
def elseBlock : Reading (List SourceTree) :=
  choice [
    blockMissing .elseHead (mark "else") (pure ()),
    do
      let _ ← mark "else"
      let _ ← due ":"
      rule .block]

/-- The block behind `else`, if it is there. -/
def maybeElse : Reading (List SourceTree) := do
  return (← attempt elseBlock).getD []

/-- An `if` or an `elif`, whose alternative may be an `elif` in turn. -/
def ifStatement (opener : BlockOpener) (word : String) : Reading (List SourceTree) := do
  let place ← place
  let head : Reading (SourceTree × List SourceTree) := do
    let _ ← mark word
    let test ← one .namedExpression
    let _ ← mark ":"
    return (test, ← rule .block)
  let built := fun (test : SourceTree) (body orelse : List SourceTree) =>
    [tree place .ifStmt ((.test, test) :: each .body body ++ each .orelse orelse)]
  choice (misplacedBlock opener word (ignored (one .namedExpression)) ++ [
    do
      let (test, body) ← head
      return built test body (← rule .elifStatement),
    do
      let (test, body) ← head
      return built test body (← maybeElse)])

/-- A `while`. -/
def whileStatement : Reading (List SourceTree) := do
  let place ← place
  choice (misplacedBlock .whileHead "while" (ignored (one .namedExpression)) ++ [
    do
      let _ ← mark "while"
      let test ← one .namedExpression
      let _ ← mark ":"
      let body ← rule .block
      let orelse ← maybeElse
      return [tree place .whileStmt
        ((.test, test) :: each .body body ++ each .orelse orelse)]])

/-- A word behind which another one stands, perhaps with `async` before it. -/
def afterAsync (word : String) : Reading Token := do
  let _ ← attempt (mark "async")
  mark word

/-- A `for`. -/
def forStatement : Reading (List SourceTree) := do
  let place ← place
  let head : Reading Unit := do
    let _ ← one .starTargets
    let _ ← mark "in"
    ignored (one .starExpressions)
  let loop := fun (async : Bool) => do
    if async then ignored (mark "async")
    let _ ← mark "for"
    let target ← one .starTargets
    let _ ← mark "in"
    committed do
      let iter ← one .starExpressions
      let _ ← mark ":"
      let body ← rule .block
      let orelse ← maybeElse
      return [tree place (.forStmt async) ((.target, target) :: (.iter, iter) ::
        each .body body ++ each .orelse orelse)]
  choice [
    colonMissing (do let _ ← afterAsync "for"; head),
    blockMissing .forHead (afterAsync "for") head,
    loop false,
    loop true,
    diagnosis do
      let _ ← afterAsync "for"
      faultOnTarget .looped (← one .starExpressions)]

/-- A context of a `with`. -/
def withItem : Reading SourceTree :=
  choice [
    do
      let context ← one .expression
      let _ ← mark "as"
      let target ← one .starTarget
      ahead (markOf [",", ")", ":"])
      return part .withItem [(.contextExpr, context), (.optionalVars, target)],
    diagnosis do
      let _ ← one .expression
      let _ ← mark "as"
      let target ← one .expression
      ahead (markOf [",", ")", ":"])
      faultOnTarget .assigned target,
    do return part .withItem [(.contextExpr, ← one .expression)]]

/-- A `with`. -/
def withStatement : Reading (List SourceTree) := do
  let place ← place
  let items := fun (context : Rule) => ignored (separated (mark ",") do
    let _ ← one context
    attempt (do let _ ← mark "as"; one .starTarget))
  let bracketed : Reading Unit := do
    let _ ← mark "("
    items .expressions
    let _ ← attempt (mark ",")
    ignored (mark ")")
  let built := fun (async brackets : Bool) => do
    if async then ignored (mark "async")
    let _ ← mark "with"
    if brackets then ignored (mark "(")
    let items ← separated (mark ",") withItem
    if brackets then
      let _ ← attempt (mark ",")
      let _ ← mark ")"
    let _ ← mark ":"
    let body ← rule .block
    return [tree place (.withStmt async) (each .items items ++ each .body body)]
  choice [
    blockMissing .withHead (afterAsync "with") (items .expression),
    blockMissing .withHead (afterAsync "with") bracketed,
    built false true,
    built false false,
    built true true,
    built true false,
    colonMissing (do let _ ← afterAsync "with"; items .expression),
    colonMissing (do let _ ← afterAsync "with"; bracketed)]

end Blocks

section Handlers

/-- The name a caught exception is bound to. -/
def caughtName : Reading (Option String) :=
  otherName

/-- Finds out what is wrong with the head of a handler. -/
def misplacedHandler : Reading (List SourceTree) :=
  choice [
    do
      let _ ← mark "except"
      let _ ← attempt (mark "*")
      let first ← one .expression
      let _ ← mark ","
      let _ ← one .expressions
      let _ ← caughtName
      let _ ← mark ":"
      faultOn first .unparenthesizedExceptions,
    do
      let _ ← mark "except"
      let _ ← attempt (mark "*")
      let _ ← one .expression
      let _ ← caughtName
      let _ ← kind .newline
      faultAtLast (.expected ":"),
    do
      let _ ← mark "except"
      let _ ← kind .newline
      faultAtLast (.expected ":"),
    do
      let _ ← mark "except"
      let _ ← mark "*"
      choice [ignored (kind .newline), ignored (mark ":")]
      faultAtLast .expectedExceptionTypes]

/-- A handler for exceptions. -/
def exceptBlock : Reading (List SourceTree) := do
  let place ← place
  choice [
    blockMissing .exceptHead (mark "except") (do
      let _ ← one .expression
      ignored caughtName),
    blockMissing .exceptHead (mark "except") (pure ()),
    do
      let _ ← mark "except"
      let type ← one .expression
      let name ← caughtName
      let _ ← mark ":"
      let body ← rule .block
      return [tree place (.exceptHandler name) ((.type, type) :: each .body body)],
    do
      let _ ← mark "except"
      let _ ← mark ":"
      let body ← rule .block
      return [tree place (.exceptHandler none) (each .body body)],
    diagnosis misplacedHandler]

/-- A handler for groups of exceptions. -/
def exceptStarBlock : Reading (List SourceTree) := do
  let place ← place
  let star : Reading Unit := do
    let _ ← mark "*"
    let _ ← one .expression
    ignored caughtName
  choice [
    blockMissing .exceptStarHead (mark "except") star,
    do
      let _ ← mark "except"
      let _ ← mark "*"
      let type ← one .expression
      let name ← caughtName
      let _ ← mark ":"
      let body ← rule .block
      return [tree place (.exceptHandler name) ((.type, type) :: each .body body)],
    diagnosis misplacedHandler]

/-- The block behind `finally`. -/
def finallyBlock : Reading (List SourceTree) :=
  choice [
    blockMissing .finallyHead (mark "finally") (pure ()),
    do
      let _ ← mark "finally"
      let _ ← due ":"
      rule .block]

/-- Finds out what is wrong with a `try`. -/
def misplacedTry : Reading (List SourceTree) :=
  choice [
    blockMissing .tryHead (mark "try") (pure ()),
    do
      let _ ← mark "try"
      let _ ← mark ":"
      let _ ← rule .block
      notAhead (markOf ["except", "finally"])
      faultAtLast .expectedHandler,
    do
      let _ ← mark "try"
      let _ ← mark ":"
      let _ ← many (rule .block)
      let _ ← several (rule .exceptBlock)
      let token ← mark "except"
      let _ ← mark "*"
      let _ ← one .expression
      let _ ← caughtName
      let _ ← mark ":"
      faultOnToken token .bothHandlers,
    do
      let _ ← mark "try"
      let _ ← mark ":"
      let _ ← many (rule .block)
      let _ ← several (rule .exceptStarBlock)
      let token ← mark "except"
      let _ ← attempt do
        let _ ← one .expression
        caughtName
      let _ ← mark ":"
      faultOnToken token .bothHandlers]

/-- A `try`. -/
def tryStatement : Reading (List SourceTree) := do
  let place ← place
  let body : Reading (List SourceTree) := do
    let _ ← mark "try"
    let _ ← due ":"
    rule .block
  let handled := fun (groups : Bool) (handler : Rule) => do
    let body ← body
    let handlers ← several (rule handler)
    let orelse ← maybeElse
    let final ← attempt finallyBlock
    return [tree place (.tryStmt groups) (each .body body ++ each .handlers handlers.flatten ++
      each .orelse orelse ++ each .finalbody (final.getD []))]
  choice [
    diagnosis misplacedTry,
    do
      let body ← body
      let final ← finallyBlock
      return [tree place (.tryStmt false) (each .body body ++ each .finalbody final)],
    handled false .exceptBlock,
    handled true .exceptStarBlock]

end Handlers

section Cases

/-- What a `match` looks at. -/
def subject : Reading SourceTree := do
  let place ← place
  choice [
    do
      let first ← one .starNamedExpression
      let _ ← mark ","
      let others ← attempt (rule .starNamedExpressions)
      return tree place (.tuple .load) (each .elts (first :: others.getD [])),
    one .namedExpression]

/-- The condition of a case. -/
def guard : Reading (Option SourceTree) :=
  attempt do
    let _ ← mark "if"
    one .namedExpression

/-- A case. -/
def caseBlock : Reading (List SourceTree) := do
  let head : Reading Unit := do
    let _ ← casePattern
    ignored guard
  choice [
    colonMissing (do let _ ← word "case"; head),
    blockMissing .caseHead (word "case") head,
    do
      let _ ← word "case"
      let pattern ← casePattern
      let condition ← guard
      let _ ← mark ":"
      let body ← rule .block
      return [part .matchCase
        ((.pattern, pattern) :: optional .guard condition ++ each .body body)]]

/-- A `match`. -/
def matchStatement : Reading (List SourceTree) := do
  let place ← place
  choice [
    do
      let _ ← word "match"
      let value ← subject
      let _ ← mark ":"
      let _ ← kind .newline
      let _ ← kind .indent
      let cases ← several caseBlock
      let _ ← kind .dedent
      return [tree place .matchStmt ((.subject, value) :: each .cases cases.flatten)],
    colonMissing (do let _ ← word "match"; ignored subject),
    blockMissing .matchHead (word "match") (ignored subject)]

end Cases

section Definitions

/-- The decorators of a definition. -/
def decorators : Reading (List SourceTree) :=
  many do
    let _ ← mark "@"
    let value ← one .namedExpression
    let _ ← kind .newline
    return value

/-- What a function returns, as annotated. -/
def returned : Reading (Option SourceTree) :=
  attempt do
    let _ ← mark "->"
    one .expression

/-- A function definition behind its decorators. -/
def functionDefinition (decorators : List SourceTree) : Reading (List SourceTree) := do
  let place ← place
  let definition := fun (async : Bool) => do
    if async then ignored (mark "async")
    let _ ← mark "def"
    let token ← name
    let _ ← due "("
    let list ← attempt (parameters ")")
    let _ ← mark ")"
    let returns ← returned
    let _ ← due ":"
    let body ← rule .block
    return [tree place (.functionDef async (nameOf token))
      ((.args, list.getD (ParameterList.node {})) :: each .body body ++
        each .decoratorList decorators ++ optional .returns returns)]
  choice [
    blockMissing .functionHead (afterAsync "def") (do
      let _ ← name
      let _ ← mark "("
      let _ ← attempt (parameters ")")
      let _ ← mark ")"
      ignored returned),
    definition false,
    definition true]

/-- A class definition behind its decorators. -/
def classDefinition (decorators : List SourceTree) : Reading (List SourceTree) := do
  let place ← place
  let bases : Reading (List SourceTree) := do
    let arguments ← attempt do
      let _ ← mark "("
      let arguments ← attempt (rule .arguments)
      let _ ← mark ")"
      return arguments.getD []
    return arguments.getD []
  let head : Reading Unit := do
    let _ ← name
    ignored bases
  choice (misplacedBlock .classHead "class" head ++ [
    do
      let _ ← mark "class"
      let token ← name
      let arguments ← bases
      let _ ← mark ":"
      let body ← rule .block
      return [tree place (.classDef (nameOf token))
        (each .bases (arguments.filter fun argument => !isKeyword argument) ++
          each .keywords (arguments.filter isKeyword) ++ each .body body ++
          each .decoratorList decorators)]])

/-- A definition of a function or a class, with its decorators. -/
def decorated (definition : List SourceTree → Reading (List SourceTree)) :
    Reading (List SourceTree) := do
  definition (← decorators)

/-- A compound statement. -/
def compoundStatement : Reading (List SourceTree) :=
  choice [
    do
      ahead (markOf ["def", "@", "async"])
      decorated functionDefinition,
    do
      ahead (mark "if")
      ifStatement .ifHead "if",
    do
      ahead (markOf ["class", "@"])
      decorated classDefinition,
    do
      ahead (markOf ["with", "async"])
      withStatement,
    do
      ahead (markOf ["for", "async"])
      forStatement,
    do
      ahead (mark "try")
      tryStatement,
    do
      ahead (mark "while")
      whileStatement,
    matchStatement]

/-- Statements. -/
def statements : Reading (List SourceTree) := do
  return (← several (choice [compoundStatement, rule .simpleStatements])).flatten

end Definitions

end Grammar

end IfChains
