/-
**Building the nodes of a program.**

A node stands where its first token stands. A target is read as an expression first; `used` then
says of the names, members, subscripts and displays in it that they are bound or deleted, and
`invalidTarget` finds the part of it that cannot be.
-/

import IfChains.Grammar.Reading
import IfChains.Text.Normal

namespace IfChains

namespace Grammar

open Reading

section Building

/-- A tree with a position. -/
def tree (place : Position) (label : Label) (children : Forest (Option Position)) : SourceTree :=
  .node (some place) label children

/-- A tree without a position. -/
def part (label : Label) (children : Forest (Option Position)) : SourceTree :=
  .node none label children

/-- Trees as children of one role. -/
def each (role : Role) (trees : List SourceTree) : Forest (Option Position) :=
  trees.map fun tree => (role, tree)

/-- An optional tree as a child. -/
def optional (role : Role) (tree : Option SourceTree) : Forest (Option Position) :=
  each role tree.toList

/-- The name a token spells. -/
def nameOf (token : Token) : String :=
  CodePoints.normalName token.spelling

/-- The place of a tree. -/
def placeOfTree (tree : SourceTree) : Position :=
  tree.tag.getD ⟨0, 0⟩

/-- Reports a fault at a tree. -/
def faultOn {α : Type} (tree : SourceTree) (fault : SyntaxFault) : Reading α :=
  faultAt (placeOfTree tree) fault

/-- Reports a fault at a token. -/
def faultOnToken {α : Type} (token : Token) (fault : SyntaxFault) : Reading α :=
  faultAt (placeOf token) fault

/-- Reads a name. -/
def name : Reading Token :=
  kind .name

/-- A phrase whose result matters only by being there. -/
def ignored {α : Type} (phrase : Reading α) : Reading Unit := do
  let _ ← phrase

end Building

section Targets

mutual

/-- An expression whose names, members, subscripts and displays are used in one way. -/
def used (usage : Usage) : SourceTree → SourceTree
  | .node place label children =>
    match label with
    | .name id _ => .node place (.name id usage) children
    | .member name _ => .node place (.member name usage) children
    | .subscript _ => .node place (.subscript usage) children
    | .starred _ => .node place (.starred usage) (usedForest usage children)
    | .list _ => .node place (.list usage) (usedForest usage children)
    | .tuple _ => .node place (.tuple usage) (usedForest usage children)
    | _ => .node place label children

/-- Expressions whose names, members, subscripts and displays are used in one way. -/
def usedForest (usage : Usage) : Forest (Option Position) → Forest (Option Position)
  | [] => []
  | (role, tree) :: rest => (role, used usage tree) :: usedForest usage rest

end

/-- The kinds of targets. -/
inductive TargetKind
  | assigned | looped | deleted
deriving DecidableEq, Repr

mutual

/-- The part of an expression that cannot be a target. -/
def invalidTarget (kind : TargetKind) : SourceTree → Option SourceTree
  | .node place label children =>
    match label with
    | .list _ | .tuple _ => invalidTargets kind children
    | .starred _ =>
      if kind = .deleted then some (.node place label children) else invalidTargets kind children
    | .compare operators =>
      if kind = .looped then
        if operators.head? = some .isIn then firstInvalid kind children else none
      else some (.node place label children)
    | .name .. | .subscript _ | .member .. => none
    | _ => some (.node place label children)

/-- The first part of some expressions that cannot be a target. -/
def invalidTargets (kind : TargetKind) : Forest (Option Position) → Option SourceTree
  | [] => none
  | (_, tree) :: rest => (invalidTarget kind tree).or (invalidTargets kind rest)

/-- The part of the first of some expressions that cannot be a target. -/
def firstInvalid (kind : TargetKind) : Forest (Option Position) → Option SourceTree
  | [] => none
  | (_, tree) :: _ => invalidTarget kind tree

end

/-- What a kind of expression is called in a report. -/
def describe : Label → String
  | .member .. => "attribute"
  | .subscript _ => "subscript"
  | .starred _ => "starred"
  | .name .. => "name"
  | .list _ => "list"
  | .tuple _ => "tuple"
  | .lambda => "lambda"
  | .call => "function call"
  | .boolOp _ | .binOp _ | .unaryOp _ => "expression"
  | .generatorExp => "generator expression"
  | .yield | .yieldFrom => "yield expression"
  | .await => "await expression"
  | .listComp => "list comprehension"
  | .setComp => "set comprehension"
  | .dictComp => "dict comprehension"
  | .dict _ => "dict literal"
  | .set => "set display"
  | .joinedStr | .formattedValue _ => "f-string expression"
  | .constant .none => "None"
  | .constant .true => "True"
  | .constant .false => "False"
  | .constant .ellipsis => "ellipsis"
  | .constant _ => "literal"
  | .compare _ => "comparison"
  | .ifExp => "conditional expression"
  | .namedExpr => "named expression"
  | _ => "expression"

/-- Reports the part of an expression that cannot be a target; without one, rules out the
alternatives. -/
def faultOnTarget {α : Type} (kind : TargetKind) (tree : SourceTree) : Reading α :=
  match invalidTarget kind tree with
  | some wrong =>
    let what := describe wrong.label
    faultOn wrong (if kind = .deleted then .cannotDelete what else .cannotAssign what)
  | none => settled

end Targets

end Grammar

end IfChains
