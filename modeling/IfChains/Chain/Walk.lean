/-
**Walks along chains.**

A `Walk` looks at a live tree and changes it, and may stop with a fault; what it has changed until
then stays changed. `Walk` has the steps that every walk is made of: looking at a node, making one,
and replacing one.
-/

import IfChains.Chain.Fault
import IfChains.LiveTree.Basic
import IfChains.Remark
import IfChains.Syntax.Field

namespace IfChains

/-- The kinds of nodes that matter to a chain. -/
inductive NodeKind
  | call | member | identifier | literal | expression | other
deriving DecidableEq, Repr

namespace NodeKind

/-- The kind of a node. -/
def ofLabel : Label → NodeKind
  | .call => call
  | .member .. => member
  | .name .. => identifier
  | .constant _ => literal
  | .starred _ => other
  | label => if label.family = .expression then expression else other

/-- The name of a kind. -/
def name : NodeKind → String
  | call => "CALL"
  | member => "MEMBER"
  | identifier => "IDENTIFIER"
  | literal => "LITERAL"
  | expression => "EXPRESSION"
  | other => "OTHER"

end NodeKind

/-- What a walk works on: the tree, the references whose chains are expanded, the latest first, and
the remarks made, in order. -/
structure WalkState where
  live : LiveTree
  processed : List NodeId := []
  remarks : List Remark := []
deriving Repr

/-- A walk along chains. -/
abbrev Walk := ExceptT WalkFault (StateM WalkState)

namespace Walk

section Looking

/-- Stops at a malformed chain; the fault is located at a node, if there is one. -/
def failAt {α : Type} (node : Option NodeId) (fault : ShapeFault) : Walk α := do
  throw (.shape fault (node.elim {} (← get).live.location))

/-- The tree. -/
def live : Walk LiveTree := do
  return (← get).live

/-- The kind of a node. -/
def kindOf (node : NodeId) : Walk NodeKind := do
  return .ofLabel ((← live).label node)

/-- The recorded parent of a node. -/
def parentOf (node : NodeId) : Walk (Option NodeId) := do
  return (← live).parent? node

/-- What a call calls. -/
def calleeOf (call : NodeId) : Walk NodeId := do
  let live ← live
  match live.label call, live.having .func call with
  | .call, [callee] => return callee
  | label, _ => throw (.misread label.typeName "func")

/-- The nodes that take a role of a node, which has to have that role for several nodes. -/
def nodesOf (role : Role) (node : NodeId) : Walk (List NodeId) := do
  let live ← live
  match (live.label node).arity? role with
  | some .many => return live.having role node
  | none => throw (.misread (live.label node).typeName role.name)
  | some _ =>
    match live.having role node with
    | child :: _ => throw (.noList (live.label child).typeName)
    | [] => throw (.noList "NoneType")

/-- The positional arguments of a call, as they are now. -/
def argumentsOf (call : NodeId) : Walk (List NodeId) :=
  nodesOf .args call

/-- The keyword arguments of a call. -/
def keywordsOf (call : NodeId) : Walk (List NodeId) :=
  nodesOf .keywords call

/-- The name of a member. -/
def memberOf (member : NodeId) : Walk String := do
  match (← live).label member with
  | .member name _ => return name
  | label => throw (.misread label.typeName "attr")

/-- Whether the chain of a reference is expanded. -/
def isProcessed (reference : NodeId) : Walk Bool := do
  return (← get).processed.contains reference

end Looking

section Changing

/-- Makes a node without a position. -/
def make (label : Label) (slots : List (Role × NodeId)) : Walk NodeId := do
  let state ← get
  let (id, live) := state.live.push label none slots
  set { state with live := live }
  return id

/-- Makes the value of a branch that has none. -/
def undefined : Walk NodeId :=
  make (.constant .none) []

/-- Makes an expression that evaluates others from left to right and has the value of the last. -/
def sequence (exprs : List NodeId) : Walk NodeId := do
  let display ← make (.tuple .load) (exprs.map fun expr => (.elts, expr))
  let one ← make (.constant (.int 1)) []
  let last ← make (.unaryOp .minus) [(.operand, one)]
  make (.subscript .load) [(.value, display), (.slice, last)]

/-- Makes a conditional expression. -/
def conditional (test consequent alternate : NodeId) : Walk NodeId :=
  make .ifExp [(.test, test), (.body, consequent), (.orelse, alternate)]

/-- Puts a node in the place of another one. -/
def replace (old new : NodeId) : Walk Unit := do
  let state ← get
  match state.live.replace? old new with
  | some live => set { state with live := live }
  | none => throw (.detached (state.live.label old).typeName)

/-- Notes that the chain of a reference is expanded. -/
def markProcessed (reference : NodeId) : Walk Unit :=
  modify fun state => { state with processed := reference :: state.processed }

/-- Makes a remark. -/
def remark (remark : Remark) : Walk Unit :=
  modify fun state => { state with remarks := state.remarks ++ [remark] }

end Changing

end Walk

end IfChains
