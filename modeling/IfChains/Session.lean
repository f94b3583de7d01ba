/-
**Working on one tree step by step.**

A session holds a live tree, the entry of its chains, the references to it in the order of the text,
and the references whose chains are expanded. Nodes are named by the number of a reference, by a
path from the root of the tree as it is now, by a name given to them before, or by the text of a new
expression.
-/

import IfChains.Chain.Expansion
import IfChains.Printer.Shared
import IfChains.Source
import IfChains.Syntax.Path

namespace IfChains

/-- A session on a tree. -/
structure Session where
  entry : String
  root : NodeId
  references : List NodeId
  state : WalkState
  saved : List (String × Option NodeId) := []

/-- How a node is named. A negative number counts references from the last one. -/
inductive NodeName
  | reference (number : Int)
  | saved (name : String)
  | path (path : String)
  | expression (text : String)
deriving DecidableEq, Repr

/-- Why a name stands for nothing. -/
inductive NameFault
  | noReference
  | unsaved (name : String)
  | path (fault : PathFault)
  | expression (failure : SyntaxFailure)
deriving DecidableEq, Repr

namespace NameFault

/-- The wording of a fault. -/
def message : NameFault → String
  | noReference => "list index out of range"
  | unsaved name => quotedText name
  | path fault => fault.message
  | expression failure =>
    failure.fault.message ++ " (<unknown>, line " ++ toString failure.line ++ ")"

end NameFault

namespace Session

/-- The names in a tree that are spelled like an entry, in the order of the text. -/
def namesOf (entry : String) (tree : Tree LiveTree.Tag) : List NodeId :=
  let tags := tree.preorder.filterMap fun node => match node.label with
    | .name id _ => if id == entry then some node.tag else none
    | _ => none
  let place := fun (tag : LiveTree.Tag) => tag.position.getD ⟨0, 0⟩
  (tags.mergeSort fun first second => (place first).before (place second)).map (·.id)

/-- A session on the tree of a program. -/
def ofTree (entry : String) (tree : SourceTree) : Session :=
  let (root, live) := LiveTree.ofTree tree
  { entry := entry
    root := root
    references := namesOf entry (live.toTree root)
    state := { live := live } }

/-- The tree as it is now. -/
def tree (session : Session) : Tree LiveTree.Tag :=
  session.state.live.toTree session.root

/-- The text of a node. -/
def textOf (session : Session) (node : NodeId) : Except PrintFault String :=
  session.state.live.print node

/-- The numbers of the references whose chains are expanded. -/
def processed (session : Session) : List Nat :=
  (List.range session.references.length).filter fun number =>
    (session.references[number]?.map session.state.processed.contains).getD false

/-- Goes on with a tree to which the nodes of an expression were added. -/
def plant (session : Session) (tree : SourceTree) : NodeId × Session :=
  let (node, live) := session.state.live.plant tree
  (node, { session with state := { session.state with live := live } })

/-- The reference of a number. -/
def reference? (session : Session) (number : Int) : Option NodeId :=
  let place := if number < 0 then number + session.references.length else number
  if place < 0 then none else session.references[place.toNat]?

/-- What a name stands for, which is a node or nothing; the node of a new expression is made. -/
def resolve (session : Session) : NodeName → Except NameFault (Option NodeId × Session)
  | .reference number =>
    match session.reference? number with
    | some node => .ok (some node, session)
    | none => .error .noReference
  | .saved name =>
    match session.saved.lookup name with
    | some node => .ok (node, session)
    | none => .error (.unsaved name)
  | .path path =>
    match session.tree.atPath path with
    | .ok found => .ok (found.map (·.tag.id), session)
    | .error fault => .error (.path fault)
  | .expression text =>
    match Source.readExpression text with
    | .ok tree =>
      let (node, session) := session.plant tree
      .ok (some node, session)
    | .error failure => .error (.expression failure)

/-- Gives a name to a node, or to nothing. -/
def save (session : Session) (name : String) (node : Option NodeId) : Session :=
  { session with saved := (name, node) :: session.saved }

/-- Takes a walk; what it changes stays changed. -/
def walk {α : Type} (session : Session) (steps : Walk α) : Except WalkFault α × Session :=
  let (result, state) := steps.run session.state
  (result, { session with state := state })

/-- Takes a walk that knows of no expanded chains; the session's own stay as they are. -/
def walkAfresh {α : Type} (session : Session) (steps : Walk α) : Except WalkFault α × Session :=
  let (result, state) := steps.run { session.state with processed := [] }
  (result, { session with state := { state with processed := session.state.processed } })

/-- Expands the chains of the references with given numbers, in the order given. -/
def dispatch (session : Session) (order : List Int) : Except WalkFault Nat × Session :=
  match order.mapM session.reference? with
  | some references => session.walk (Expansion.dispatch session.entry references)
  | none => (.error .noItem, session)

section Absence

/-- A step that needs a node and reads a field of it; without the node, the field is missing. -/
def withNode {α : Type} (field : String) (node : Option NodeId) (step : NodeId → Walk α) : Walk α :=
  match node with
  | some node => step node
  | none => throw (.misread "NoneType" field)

/-- A step that needs several nodes, whose fields are read in the end. -/
def withNodes {α : Type} (nodes : List (Option NodeId)) (step : List NodeId → Walk α) : Walk α :=
  match nodes.mapM id with
  | some nodes => step nodes
  | none => throw (.misread "NoneType" "_fields")

/-- Makes a conditional expression of nodes that may be missing. -/
def conditional (test consequent alternate : Option NodeId) : Walk NodeId :=
  withNode "_fields" test fun test =>
    withNode "_fields" consequent fun consequent =>
      withNode "_fields" alternate fun alternate => Walk.conditional test consequent alternate

/-- Makes the conditional expression of a condition and branches, of nodes that may be missing. -/
def synthesis (condition : Option NodeId) (consequent alternate : List (Option NodeId)) :
    Walk NodeId :=
  withNode "_fields" condition fun condition =>
    withNodes consequent fun consequent =>
      withNodes alternate fun alternate =>
        Synthesis.conditional ⟨consequent, alternate⟩ condition

/-- Puts a node in the place of another one; both may be missing. -/
def replace (old new : Option NodeId) : Walk Unit := do
  match old, new with
  | none, _ => throw (.detached "NoneType")
  | some old, some new => Walk.replace old new
  | some old, none =>
    Walk.replace old old
    throw (.misread "NoneType" "_attributes")

/-- Expands the chain of a reference, which may be missing. -/
def processReference (entry : String) (reference : Option NodeId) (remaining : List NodeId) :
    Walk Bool := do
  match reference with
  | some reference => Expansion.processReference entry reference remaining
  | none =>
    let _ ← Shape.invocation none none entry
    return false

/-- Walks a chain from a call with a condition, either of which may be missing. -/
def walkChain (entry : String) (position condition : Option NodeId) (remaining : List NodeId) :
    Walk Expansion.ChainResult := do
  let resolve := Expansion.resolver entry remaining.length
  match position, condition with
  | none, _ =>
    let _ ← Shape.nextMember entry none none
    throw .endless
  | some position, some condition =>
    Expansion.walkChain resolve entry position condition remaining
  | some position, none =>
    let _ ← Expansion.walkChain resolve entry position (← Walk.undefined) remaining
    throw (.misread "NoneType" "_fields")

end Absence

end Session

end IfChains
