/-
**The fields of the nodes of a syntax tree.**

Each kind of node has certain roles for its children. A role is taken by one child, by one child or
none, or by any number of children in order.

* `nodup_fields`: no kind of node has a role twice.
-/

import IfChains.Syntax.Label

namespace IfChains

/-- How many children take a role. -/
inductive Arity
  | one | optional | many
deriving DecidableEq, Repr

namespace Label

/-- The roles that a kind of node has for its children. -/
def fields : Label → List (Role × Arity)
  | module => [(.body, .many)]
  | functionDef .. =>
    [(.args, .one), (.body, .many), (.decoratorList, .many), (.returns, .optional)]
  | classDef _ => [(.bases, .many), (.keywords, .many), (.body, .many), (.decoratorList, .many)]
  | returnStmt | yield => [(.value, .optional)]
  | deleteStmt => [(.targets, .many)]
  | assign => [(.targets, .many), (.value, .one)]
  | augAssign _ | namedExpr => [(.target, .one), (.value, .one)]
  | annAssign _ => [(.target, .one), (.hint, .one), (.value, .optional)]
  | forStmt _ => [(.target, .one), (.iter, .one), (.body, .many), (.orelse, .many)]
  | whileStmt | ifStmt => [(.test, .one), (.body, .many), (.orelse, .many)]
  | withStmt _ => [(.items, .many), (.body, .many)]
  | matchStmt => [(.subject, .one), (.cases, .many)]
  | raiseStmt => [(.exc, .optional), (.cause, .optional)]
  | tryStmt _ => [(.body, .many), (.handlers, .many), (.orelse, .many), (.finalbody, .many)]
  | assertStmt => [(.test, .one), (.msg, .optional)]
  | importStmt | importFrom .. => [(.names, .many)]
  | globalStmt _ | nonlocalStmt _ | passStmt | breakStmt | continueStmt | constant _ | name ..
  | importItem .. | matchSingleton _ | matchStar _ => []
  | exprStmt | await | yieldFrom | member .. | starred _ | keyword _ | matchValue =>
    [(.value, .one)]
  | boolOp _ | joinedStr => [(.values, .many)]
  | binOp _ => [(.left, .one), (.right, .one)]
  | unaryOp _ => [(.operand, .one)]
  | lambda => [(.args, .one), (.body, .one)]
  | ifExp => [(.test, .one), (.body, .one), (.orelse, .one)]
  | dict _ => [(.keys, .many), (.values, .many)]
  | set | list _ | tuple _ => [(.elts, .many)]
  | listComp | setComp | generatorExp => [(.elt, .one), (.generators, .many)]
  | dictComp => [(.key, .one), (.value, .one), (.generators, .many)]
  | compare _ => [(.left, .one), (.comparators, .many)]
  | call => [(.func, .one), (.args, .many), (.keywords, .many)]
  | formattedValue _ => [(.value, .one), (.formatSpec, .optional)]
  | subscript _ => [(.value, .one), (.slice, .one)]
  | slice => [(.lower, .optional), (.upper, .optional), (.step, .optional)]
  | comprehension _ => [(.target, .one), (.iter, .one), (.ifs, .many)]
  | exceptHandler _ => [(.type, .optional), (.body, .many)]
  | arguments _ =>
    [(.posonlyargs, .many), (.args, .many), (.vararg, .optional), (.kwonlyargs, .many),
      (.kwDefaults, .many), (.kwarg, .optional), (.defaults, .many)]
  | arg _ => [(.hint, .optional)]
  | withItem => [(.contextExpr, .one), (.optionalVars, .optional)]
  | matchCase => [(.pattern, .one), (.guard, .optional), (.body, .many)]
  | matchSequence | matchOr => [(.patterns, .many)]
  | matchMapping _ => [(.keys, .many), (.patterns, .many)]
  | matchClass _ => [(.cls, .one), (.patterns, .many), (.kwdPatterns, .many)]
  | matchAs _ => [(.pattern, .optional)]

/-- No kind of node has a role twice. -/
theorem nodup_fields (label : Label) : (label.fields.map Prod.fst).Nodup := by
  cases label <;> exact of_decide_eq_true rfl

/-- How many children take a role of a kind of node, if it has that role. -/
def arity? (label : Label) (role : Role) : Option Arity :=
  label.fields.lookup role

end Label

/-- Items spread over the places that hold one. -/
def withGaps {β : Type} : List Bool → List β → List (Option β)
  | [], _ => []
  | false :: places, items => none :: withGaps places items
  | true :: places, items => items.head? :: withGaps places items.tail

end IfChains
