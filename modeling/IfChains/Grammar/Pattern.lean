/-
**Patterns of a `match` statement.**

A pattern is a literal, a name that captures, the wildcard, a dotted name that is compared, a
sequence, a mapping, a class with patterns for its parts, alternatives, or a pattern with a name for
what it matches.
-/

import IfChains.Grammar.Literal
import IfChains.Grammar.Target

namespace IfChains

namespace Grammar

open Reading

section Literals

/-- A number literal that may have a minus sign. -/
def signed (operand : Reading SourceTree) : Reading SourceTree := do
  let place ← place
  choice [
    operand,
    do
      let _ ← mark "-"
      return tree place (.unaryOp .minus) [(.operand, ← operand)]]

/-- Whether a number literal is imaginary. -/
def isImaginary (value : SourceTree) : Bool :=
  match value.label with
  | .constant (.imaginary _) => true
  | _ => false

/-- A real number literal. -/
def realNumber : Reading SourceTree := do
  let value ← number
  if isImaginary value then
    faultOn value (.parameterFault "real number required in complex literal")
  return value

/-- An imaginary number literal. -/
def imaginaryNumber : Reading SourceTree := do
  let value ← number
  if !isImaginary value then
    faultOn value (.parameterFault "imaginary number required in complex literal")
  return value

/-- A sum or difference of a real and an imaginary literal. -/
def complexNumber : Reading SourceTree := do
  let place ← place
  let real ← signed realNumber
  let sign ← markOf ["+", "-"]
  let imaginary ← imaginaryNumber
  return tree place (.binOp (if sign.spelling = "+" then .add else .sub))
    [(.left, real), (.right, imaginary)]

/-- A literal that is compared by its value. -/
def comparedLiteral : Reading SourceTree :=
  choice [
    do
      let value ← signed number
      notAhead (markOf ["+", "-"])
      return value,
    complexNumber,
    one .texts]

/-- A literal that is compared by its identity. -/
def singleton : Reading Constant :=
  choice [
    do let _ ← mark "None"; return .none,
    do let _ ← mark "True"; return .true,
    do let _ ← mark "False"; return .false]

/-- A literal as a pattern. -/
def literalPattern : Reading SourceTree := do
  let place ← place
  choice [
    do return tree place .matchValue [(.value, ← comparedLiteral)],
    do return tree place (.matchSingleton (← singleton)) []]

/-- A literal as a key of a mapping. -/
def literalKey : Reading SourceTree := do
  let place ← place
  choice [
    comparedLiteral,
    do return tree place (.constant (← singleton)) []]

end Literals

section Names

/-- A name that captures what it stands for. -/
def captured : Reading String := do
  notAhead (word "_")
  let token ← name
  notAhead (markOf [".", "(", "="])
  return nameOf token

/-- A name or a dotted name. -/
def qualifiedName : Reading SourceTree := do
  let place ← place
  let first ← name
  grown (memberSuffix place .load) (tree place (.name (nameOf first) .load) [])

/-- A dotted name. -/
def dottedPath : Reading SourceTree := do
  let value ← one .qualifiedName
  match value.label with
  | .member .. => return value
  | _ => noMatch

end Names

section Patterns

/-- A pattern that may bind the rest of a sequence. -/
def starPattern : Reading SourceTree := do
  let place ← place
  choice [
    do
      let _ ← mark "*"
      return tree place (.matchStar (some (← captured))) [],
    do
      let _ ← mark "*"
      let _ ← word "_"
      return tree place (.matchStar none) []]

/-- A pattern for one or for several members of a sequence. -/
def maybeStarPattern : Reading SourceTree :=
  choice [one .starPattern, one .pattern]

/-- The patterns of a sequence in brackets. -/
def sequenceParts : Reading (List SourceTree) := do
  let parts ← separated (mark ",") (one .maybeStarPattern)
  let _ ← attempt (mark ",")
  return parts

/-- The patterns of a sequence without brackets, which has at least one comma. -/
def openSequence : Reading (List SourceTree) := do
  let first ← one .maybeStarPattern
  let _ ← mark ","
  let others ← attempt sequenceParts
  return first :: others.getD []

/-- A pattern for a sequence in brackets. -/
def sequencePattern : Reading SourceTree := do
  let place ← place
  choice [
    do
      let _ ← mark "["
      let parts ← attempt sequenceParts
      let _ ← mark "]"
      return tree place .matchSequence (each .patterns (parts.getD [])),
    do
      let _ ← mark "("
      let parts ← attempt openSequence
      let _ ← mark ")"
      return tree place .matchSequence (each .patterns (parts.getD []))]

/-- The patterns for the entries of a mapping. -/
def entryPatterns : Reading (List (SourceTree × SourceTree)) :=
  separated (mark ",") do
    let key ← choice [literalKey, dottedPath]
    let _ ← mark ":"
    return (key, ← one .pattern)

/-- The name for the rest of a mapping. -/
def restPattern : Reading String := do
  let _ ← mark "**"
  captured

/-- A pattern for a mapping. -/
def mappingPattern : Reading SourceTree := do
  let place ← place
  let close : Reading Unit := do
    let _ ← attempt (mark ",")
    ignored (mark "\x7d")
  let built := fun (entries : List (SourceTree × SourceTree)) (rest : Option String) =>
    tree place (.matchMapping rest)
      (each .keys (entries.map (·.1)) ++ each .patterns (entries.map (·.2)))
  let _ ← mark "\x7b"
  choice [
    do
      let _ ← mark "\x7d"
      return built [] none,
    do
      let rest ← restPattern
      close
      return built [] (some rest),
    do
      let entries ← entryPatterns
      let _ ← mark ","
      let rest ← restPattern
      close
      return built entries (some rest),
    do
      let entries ← entryPatterns
      close
      return built entries none]

/-- Patterns for the parts of an object, in order. -/
def positionalPatterns : Reading (List SourceTree) :=
  separated (mark ",") (one .pattern)

/-- Patterns for the named parts of an object. -/
def keywordPatterns : Reading (List (String × SourceTree)) :=
  separated (mark ",") do
    let token ← name
    let _ ← mark "="
    return (nameOf token, ← one .pattern)

/-- A pattern for an object of a class. -/
def classPattern : Reading SourceTree := do
  let place ← place
  let close : Reading Unit := do
    let _ ← attempt (mark ",")
    ignored (mark ")")
  let built := fun (cls : SourceTree) (positional : List SourceTree)
      (keywords : List (String × SourceTree)) =>
    tree place (.matchClass (keywords.map (·.1)))
      ((.cls, cls) :: each .patterns positional ++ each .kwdPatterns (keywords.map (·.2)))
  let cls ← one .qualifiedName
  let _ ← mark "("
  choice [
    do
      let _ ← mark ")"
      return built cls [] [],
    do
      let positional ← positionalPatterns
      close
      return built cls positional [],
    do
      let keywords ← keywordPatterns
      close
      return built cls [] keywords,
    do
      let positional ← positionalPatterns
      let _ ← mark ","
      let keywords ← keywordPatterns
      close
      return built cls positional keywords,
    diagnosis do
      let _ ← attempt (do let _ ← positionalPatterns; mark ",")
      let _ ← keywordPatterns
      let _ ← mark ","
      let late ← positionalPatterns
      faultOn (late.headD default) .positionalPatternAfterKeyword]

/-- A pattern that is no alternative. -/
def closedPattern : Reading SourceTree := do
  let place ← place
  choice [
    literalPattern,
    do
      let name ← captured
      return tree place (.matchAs (some name)) [],
    do
      let _ ← word "_"
      return tree place (.matchAs none) [],
    do
      let path ← dottedPath
      notAhead (markOf [".", "(", "="])
      return tree place .matchValue [(.value, path)],
    do
      let _ ← mark "("
      let inner ← one .pattern
      let _ ← mark ")"
      return inner,
    sequencePattern,
    mappingPattern,
    classPattern]

/-- Alternatives, or a single pattern. -/
def orPattern : Reading SourceTree := do
  let place ← place
  match ← separated (mark "|") (one .closedPattern) with
  | [only] => return only
  | alternatives => return tree place .matchOr (each .patterns alternatives)

/-- A pattern that may have a name for what it matches. -/
def pattern : Reading SourceTree := do
  let place ← place
  choice [
    do
      let inner ← orPattern
      let _ ← mark "as"
      let name ← captured
      return tree place (.matchAs (some name)) [(.pattern, inner)],
    diagnosis do
      let _ ← orPattern
      let _ ← mark "as"
      let wildcard ← word "_"
      faultOnToken wildcard .captureUnderscore,
    diagnosis do
      let _ ← orPattern
      let _ ← mark "as"
      notAhead name
      faultOn (← one .expression) .invalidPatternTarget,
    orPattern]

/-- The pattern of a case: a sequence without brackets, or a pattern. -/
def casePattern : Reading SourceTree := do
  let place ← place
  choice [
    do return tree place .matchSequence (each .patterns (← openSequence)),
    one .pattern]

end Patterns

end Grammar

end IfChains
