/-
**Targets: what an assignment binds and what a deletion removes.**

A target is a name, a member, a subscript, or a display of targets. What stands before the last dot
or bracket of a member or subscript is any primary expression; it ends where no dot or bracket
follows.
-/

import IfChains.Grammar.Node

namespace IfChains

namespace Grammar

open Reading

section Primaries

/-- Whether an argument is named, or an unpacked mapping. -/
def isKeyword (argument : SourceTree) : Bool :=
  match argument.label with
  | .keyword _ => true
  | _ => false

/-- A call whose arguments are given with their keywords. -/
def callOf (place : Position) (callee : SourceTree) (arguments : List SourceTree) : SourceTree :=
  tree place .call ((.func, callee) ::
    each .args (arguments.filter fun argument => !isKeyword argument) ++
    each .keywords (arguments.filter isKeyword))

/-- The last member of a primary expression. -/
def memberSuffix (place : Position) (usage : Usage) (value : SourceTree) : Reading SourceTree := do
  let _ ← mark "."
  let token ← name
  return tree place (.member (nameOf token) usage) [(.value, value)]

/-- The last subscript of a primary expression. -/
def subscriptSuffix (place : Position) (usage : Usage) (value : SourceTree) :
    Reading SourceTree := do
  let _ ← mark "["
  let slice ← one .slices
  let _ ← mark "]"
  return tree place (.subscript usage) [(.value, value), (.slice, slice)]

/-- A call with a generator as its only argument. -/
def generatorSuffix (place : Position) (value : SourceTree) : Reading SourceTree := do
  return callOf place value [← one .generator]

/-- A call. -/
def callSuffix (place : Position) (value : SourceTree) : Reading SourceTree := do
  let _ ← mark "("
  let arguments ← attempt (rule .arguments)
  let _ ← mark ")"
  return callOf place value (arguments.getD [])

/-- What follows a primary expression that goes on. -/
def goesOn : Reading Unit :=
  ignored (markOf ["(", "[", "."])

/-- A phrase behind which a primary expression goes on. -/
def goingOn (phrase : Reading SourceTree) : Reading SourceTree := do
  let value ← phrase
  ahead goesOn
  return value

/-- A phrase behind which no primary expression goes on. -/
def goneOn (phrase : Reading SourceTree) : Reading SourceTree := do
  let value ← phrase
  notAhead goesOn
  return value

/-- A primary expression that goes on. -/
def targetPrimary : Reading SourceTree := do
  let place ← place
  let seed ← goingOn (one .atom)
  grown (fun value => choice [
    goingOn (memberSuffix place .load value),
    goingOn (subscriptSuffix place .load value),
    goingOn (generatorSuffix place value),
    goingOn (callSuffix place value)]) seed

/-- A member or a subscript that ends a primary expression. -/
def lastSuffix (usage : Usage) : Reading SourceTree := do
  let place ← place
  choice [
    do goneOn (memberSuffix place usage (← one .targetPrimary)),
    do goneOn (subscriptSuffix place usage (← one .targetPrimary))]

end Primaries

section Assigned

/-- Targets with commas between and perhaps one behind. -/
def targetList : Reading (List SourceTree) := do
  let targets ← separated (mark ",") (one .starTarget)
  let _ ← attempt (mark ",")
  return targets

/-- The targets of a tuple display: more than one, or one with a comma behind it. -/
def targetTuple : Reading (List SourceTree) :=
  choice [
    do
      let first ← one .starTarget
      let others ← several (do let _ ← mark ","; one .starTarget)
      let _ ← attempt (mark ",")
      return first :: others,
    do
      let first ← one .starTarget
      let _ ← mark ","
      return [first]]

/-- The targets on the left of an equals sign or of the word `in`. -/
def starTargets : Reading SourceTree := do
  let place ← place
  choice [
    do
      let target ← one .starTarget
      notAhead (mark ",")
      return target,
    do
      let first ← one .starTarget
      let others ← many (do let _ ← mark ","; one .starTarget)
      let _ ← attempt (mark ",")
      return tree place (.tuple .store) (each .elts (first :: others))]

/-- A target that may bind the rest of a sequence. -/
def starTarget : Reading SourceTree := do
  let place ← place
  choice [
    do
      let _ ← mark "*"
      notAhead (mark "*")
      let target ← one .starTarget
      return tree place (.starred .store) [(.value, used .store target)],
    one .targetWithStar]

/-- A name, or targets in brackets. -/
def starAtom : Reading SourceTree := do
  let place ← place
  choice [
    do
      let token ← name
      return tree place (.name (nameOf token) .store) [],
    do
      let _ ← mark "("
      let target ← one .targetWithStar
      let _ ← mark ")"
      return used .store target,
    do
      let _ ← mark "("
      let targets ← attempt targetTuple
      let _ ← mark ")"
      return tree place (.tuple .store) (each .elts (targets.getD [])),
    do
      let _ ← mark "["
      let targets ← attempt targetList
      let _ ← mark "]"
      return tree place (.list .store) (each .elts (targets.getD []))]

/-- A target that binds one value. -/
def targetWithStar : Reading SourceTree :=
  choice [lastSuffix .store, starAtom]

/-- A target of an augmented or annotated assignment. -/
def singleTarget : Reading SourceTree := do
  let place ← place
  choice [
    lastSuffix .store,
    do
      let token ← name
      return tree place (.name (nameOf token) .store) [],
    do
      let _ ← mark "("
      let target ← one .singleTarget
      let _ ← mark ")"
      return target]

end Assigned

section Deleted

/-- Targets of a deletion, with commas between and perhaps one behind. -/
def deleteTargets : Reading (List SourceTree) := do
  let targets ← separated (mark ",") (one .deleteTarget)
  let _ ← attempt (mark ",")
  return targets

/-- A name to delete, or targets of a deletion in brackets. -/
def deleteAtom : Reading SourceTree := do
  let place ← place
  choice [
    do
      let token ← name
      return tree place (.name (nameOf token) .delete) [],
    do
      let _ ← mark "("
      let target ← one .deleteTarget
      let _ ← mark ")"
      return used .delete target,
    do
      let _ ← mark "("
      let targets ← attempt (rule .deleteTargets)
      let _ ← mark ")"
      return tree place (.tuple .delete) (each .elts (targets.getD [])),
    do
      let _ ← mark "["
      let targets ← attempt (rule .deleteTargets)
      let _ ← mark "]"
      return tree place (.list .delete) (each .elts (targets.getD []))]

/-- A target of a deletion. -/
def deleteTarget : Reading SourceTree :=
  choice [lastSuffix .delete, deleteAtom]

end Deleted

end Grammar

end IfChains
