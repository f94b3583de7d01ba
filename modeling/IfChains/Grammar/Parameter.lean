/-
**Parameter lists.**

Positional-only parameters stand before a slash, keyword-only ones behind a star. A parameter with a
default is followed by parameters with defaults up to the star. The parameters of a function may be
annotated and end at a bracket; those of a lambda expression are not and end at a colon.
-/

import IfChains.Grammar.Node

namespace IfChains

namespace Grammar

open Reading

/-- A parameter and its default. -/
structure Parameter where
  node : SourceTree
  value : Option SourceTree := none

/-- A parameter list taken apart. -/
structure ParameterList where
  positionalOnly : List Parameter := []
  plain : List Parameter := []
  rest : Option SourceTree := none
  keywordOnly : List Parameter := []
  keywordRest : Option SourceTree := none

namespace ParameterList

/-- The node of a parameter list. -/
def node (list : ParameterList) : SourceTree :=
  part (.arguments (list.keywordOnly.map (·.value.isSome)))
    (each .posonlyargs (list.positionalOnly.map (·.node)) ++ each .args (list.plain.map (·.node)) ++
      optional .vararg list.rest ++ each .kwonlyargs (list.keywordOnly.map (·.node)) ++
      each .kwDefaults (list.keywordOnly.filterMap (·.value)) ++
      optional .kwarg list.keywordRest ++
      each .defaults ((list.positionalOnly ++ list.plain).filterMap (·.value)))

/-- The parameters behind the plain ones are those of another list. -/
def followedBy (list : ParameterList) (others : Option ParameterList) : ParameterList :=
  match others with
  | some others =>
    { list with
      rest := others.rest, keywordOnly := others.keywordOnly, keywordRest := others.keywordRest }
  | none => list

end ParameterList

section One

variable (closing : String)

/-- A parameter without its default. -/
def parameter : Reading SourceTree := do
  let place ← place
  let token ← name
  let hint ← if closing = ")" then attempt (do let _ ← mark ":"; one .expression)
    else pure none
  return tree place (.arg (nameOf token)) (optional .hint hint)

/-- The default of a parameter. -/
def parameterDefault : Reading SourceTree :=
  choice [
    do
      let _ ← mark "="
      one .expression,
    diagnosis do
      let sign ← mark "="
      ahead (markOf [")", ","])
      faultOnToken sign (.parameterFault "expected default value expression")]

/-- The end of a parameter: a comma, or what closes the list. -/
def parameterEnd : Reading Unit :=
  choice [ignored (mark ","), ahead (mark closing)]

/-- A parameter without a default. -/
def bareParameter : Reading Parameter := do
  let node ← parameter closing
  parameterEnd closing
  return { node := node }

/-- A parameter with a default. -/
def defaultedParameter : Reading Parameter := do
  let node ← parameter closing
  let value ← parameterDefault
  parameterEnd closing
  return { node := node, value := some value }

/-- A parameter that may have a default. -/
def anyParameter : Reading Parameter := do
  let node ← parameter closing
  let value ← attempt parameterDefault
  parameterEnd closing
  return { node := node, value := value }

/-- A parameter whose annotation is an unpacking. -/
def starAnnotated : Reading Parameter := do
  if closing ≠ ")" then noMatch
  let place ← place
  let token ← name
  let _ ← mark ":"
  let hint ← one .starExpression
  parameterEnd closing
  return { node := tree place (.arg (nameOf token)) [(.hint, hint)] }

end One

section Lists

variable (closing : String)

/-- Positional-only parameters without defaults, and the slash. -/
def bareBeforeSlash : Reading (List Parameter) := do
  let parameters ← several (bareParameter closing)
  let _ ← mark "/"
  parameterEnd closing
  return parameters

/-- Positional-only parameters, the last with a default, and the slash. -/
def defaultedBeforeSlash : Reading (List Parameter) := do
  let bare ← many (bareParameter closing)
  let defaulted ← several (defaultedParameter closing)
  let _ ← mark "/"
  parameterEnd closing
  return bare ++ defaulted

/-- Finds out what is wrong with a parameter for further keywords. -/
def misplacedKeywordRest : Reading SourceTree :=
  choice [
    do
      let _ ← mark "**"
      let _ ← parameter closing
      let sign ← mark "="
      faultOnToken sign (.parameterFault "var-keyword argument cannot have default value"),
    do
      let _ ← mark "**"
      let _ ← parameter closing
      let _ ← mark ","
      let other ← parameter closing
      faultOn other (.parameterFault "arguments cannot follow var-keyword argument"),
    do
      let _ ← mark "**"
      let _ ← parameter closing
      let _ ← mark ","
      let other ← markOf ["*", "**", "/"]
      faultOnToken other (.parameterFault "arguments cannot follow var-keyword argument")]

/-- A parameter for further keywords. -/
def keywordRest : Reading SourceTree :=
  choice [
    diagnosis (misplacedKeywordRest closing),
    do
      let _ ← mark "**"
      return (← bareParameter closing).node]

/-- Finds out what is wrong with the parameters from a star on. -/
def misplacedStar : Reading ParameterList :=
  choice [
    do
      let star ← mark "*"
      choice [
        ignored (mark closing),
        do
          let _ ← mark ","
          ignored (markOf [closing, "**"])]
      let fault := SyntaxFault.parameterFault "named arguments must follow bare *"
      if closing = ")" then faultOnToken star fault else faultAtLast fault,
    do
      let _ ← mark "*"
      let _ ← parameter closing
      let sign ← mark "="
      faultOnToken sign (.parameterFault "var-positional argument cannot have default value"),
    do
      let _ ← mark "*"
      choice [ignored (bareParameter closing), ignored (mark ",")]
      let _ ← many (anyParameter closing)
      let star ← mark "*"
      choice [ignored (bareParameter closing), ignored (mark ",")]
      faultOnToken star (.parameterFault "* argument may appear only once")]

/-- The parameters from a star on. -/
def fromStar : Reading ParameterList :=
  choice [
    diagnosis (misplacedStar closing),
    do
      let _ ← mark "*"
      let rest ← choice [bareParameter closing, starAnnotated closing]
      let others ← many (anyParameter closing)
      let last ← attempt (keywordRest closing)
      return { rest := some rest.node, keywordOnly := others, keywordRest := last },
    do
      let _ ← mark "*"
      let _ ← mark ","
      let others ← several (anyParameter closing)
      let last ← attempt (keywordRest closing)
      return { keywordOnly := others, keywordRest := last },
    do
      let last ← keywordRest closing
      return { keywordRest := some last }]

/-- Finds out what is wrong with a parameter list. -/
def misplacedParameters : Reading ParameterList :=
  choice [
    do
      let _ ← many (bareParameter closing)
      choice [
        ignored (defaultedBeforeSlash closing),
        ignored (several (defaultedParameter closing))]
      let wrong ← bareParameter closing
      faultOn wrong.node (.parameterFault "non-default argument follows default argument"),
    do
      let _ ← many (bareParameter closing)
      let bracket ← mark "("
      if closing = ")" then
        let _ ← several (bareParameter closing)
      else
        let _ ← separated (mark ",") (parameter closing)
      let _ ← attempt (mark ",")
      let _ ← mark ")"
      faultOnToken bracket (.parameterFault
        ((if closing = ")" then "Function" else "Lambda expression") ++
          " parameters cannot be parenthesized")),
    do
      let slash ← mark "/"
      let _ ← mark ","
      faultOnToken slash (.parameterFault "at least one argument must precede /"),
    do
      let _ ← choice [bareBeforeSlash closing, defaultedBeforeSlash closing]
      let _ ← many (anyParameter closing)
      let slash ← mark "/"
      faultOnToken slash (.parameterFault "/ may appear only once"),
    do
      let _ ← attempt (choice [bareBeforeSlash closing, defaultedBeforeSlash closing])
      let _ ← many (anyParameter closing)
      let _ ← mark "*"
      choice [ignored (mark ","), ignored (bareParameter closing)]
      let _ ← many (anyParameter closing)
      let slash ← mark "/"
      faultOnToken slash (.parameterFault "/ must be ahead of *"),
    do
      let _ ← several (anyParameter closing)
      let _ ← mark "/"
      let star ← mark "*"
      faultOnToken star (.parameterFault "expected comma between / and *")]

/-- The parameters of a function or a lambda expression. -/
def parameters : Reading SourceTree := do
  let list ← choice [
    diagnosis (misplacedParameters closing),
    do
      let before ← bareBeforeSlash closing
      let bare ← many (bareParameter closing)
      let defaulted ← many (defaultedParameter closing)
      let list : ParameterList := { positionalOnly := before, plain := bare ++ defaulted }
      return list.followedBy (← attempt (fromStar closing)),
    do
      let before ← defaultedBeforeSlash closing
      let defaulted ← many (defaultedParameter closing)
      let list : ParameterList := { positionalOnly := before, plain := defaulted }
      return list.followedBy (← attempt (fromStar closing)),
    do
      let bare ← several (bareParameter closing)
      let defaulted ← many (defaultedParameter closing)
      let list : ParameterList := { plain := bare ++ defaulted }
      return list.followedBy (← attempt (fromStar closing)),
    do
      let defaulted ← several (defaultedParameter closing)
      let list : ParameterList := { plain := defaulted }
      return list.followedBy (← attempt (fromStar closing)),
    fromStar closing]
  return list.node

end Lists

end Grammar

end IfChains
