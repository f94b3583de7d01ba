/-
**The arguments of a call.**

Positional arguments come first; from the first keyword on, only keywords and unpackings follow. The
arguments of a call are read as one list, in which keywords are told apart by their label.
-/

import IfChains.Grammar.Target

namespace IfChains

namespace Grammar

open Reading

section Arguments

/-- An expression behind which no assignment sign stands, or a named expression. -/
def plainArgument : Reading SourceTree :=
  choice [
    one .assignmentExpression,
    do
      let value ← one .expression
      notAhead (mark ":=")
      return value]

/-- A positional argument. -/
def positionalArgument : Reading SourceTree :=
  choice [
    one .starredExpression,
    do
      let value ← plainArgument
      notAhead (mark "=")
      return value]

/-- An unpacked argument. -/
def starredExpression : Reading SourceTree := do
  let place ← place
  let _ ← mark "*"
  let value ← one .expression
  return tree place (.starred .load) [(.value, value)]

/-- A named argument. -/
def namedArgument : Reading SourceTree := do
  let place ← place
  let token ← name
  let _ ← mark "="
  let value ← one .expression
  return tree place (.keyword (some (nameOf token))) [(.value, value)]

/-- Finds out what is wrong with a named argument. -/
def misnamedArgument : Reading SourceTree :=
  choice [
    do
      let token ← markOf ["True", "False", "None"]
      let _ ← mark "="
      faultOnToken token (.cannotAssign token.spelling),
    do
      let token ← name
      let _ ← mark "="
      let _ ← one .expression
      let _ ← rule .forIfClauses
      faultOnToken token .equalSignMeant,
    do
      notAhead (do let _ ← name; mark "=")
      let value ← one .expression
      let _ ← mark "="
      faultOn value .keywordExpression]

/-- A named argument or an unpacked sequence. -/
def namedOrStarred : Reading SourceTree :=
  choice [diagnosis misnamedArgument, namedArgument, one .starredExpression]

/-- A named argument or an unpacked mapping. -/
def namedOrDoubleStarred : Reading SourceTree :=
  choice [
    diagnosis misnamedArgument,
    namedArgument,
    do
      let place ← place
      let _ ← mark "**"
      let value ← one .expression
      return tree place (.keyword none) [(.value, value)]]

/-- The arguments from the first named one on. -/
def kwargs : Reading (List SourceTree) :=
  choice [
    do
      let first ← separated (mark ",") namedOrStarred
      let _ ← mark ","
      let others ← separated (mark ",") namedOrDoubleStarred
      return first ++ others,
    separated (mark ",") namedOrStarred,
    separated (mark ",") namedOrDoubleStarred]

/-- Arguments without a comma behind them. -/
def args : Reading (List SourceTree) :=
  choice [
    do
      let positional ← separated (mark ",") positionalArgument
      let named ← attempt (do let _ ← mark ","; rule .kwargs)
      return positional ++ named.getD [],
    rule .kwargs]

/-- Finds out what is wrong with arguments. -/
def misplacedArguments : Reading (List SourceTree) := do
  let place ← place
  choice [
    do
      let _ ← rule .args
      let _ ← mark ","
      let _ ← mark "*"
      faultAt place .unpackingAfterKeywords,
    do
      let value ← one .expression
      let _ ← rule .forIfClauses
      let _ ← mark ","
      let _ ← attempt (choice [
        ignored (rule .args),
        do
          let _ ← one .expression
          ignored (rule .forIfClauses)])
      faultOn value .unparenthesizedGenerator,
    do
      let token ← name
      let _ ← mark "="
      let _ ← one .expression
      let _ ← rule .forIfClauses
      faultOnToken token .equalSignMeant,
    do
      let arguments ← rule .args
      let _ ← rule .forIfClauses
      let positional := arguments.filter fun argument => !isKeyword argument
      match positional with
      | _ :: _ :: _ => faultOn (positional.getLastD default) .unparenthesizedGenerator
      | _ => settled,
    do
      let _ ← rule .args
      let _ ← mark ","
      let value ← one .expression
      let _ ← rule .forIfClauses
      faultOn value .unparenthesizedGenerator,
    do
      let arguments ← rule .args
      let _ ← mark ","
      let _ ← rule .args
      if arguments.any fun argument => argument.label == .keyword none then
        faultAtLast .positionalAfterUnpacking
      else faultAtLast .positionalAfterKeyword]

/-- The arguments of a call, perhaps with a comma behind them. -/
def arguments : Reading (List SourceTree) :=
  choice [
    do
      let arguments ← rule .args
      let _ ← attempt (mark ",")
      ahead (mark ")")
      return arguments,
    diagnosis misplacedArguments]

end Arguments

end Grammar

end IfChains
