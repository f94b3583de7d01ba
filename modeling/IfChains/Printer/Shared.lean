/-
**Source text of a tree in which a node stands in several places.**

In a live tree a node can be the child of several others. What one of its parents says about how
tightly its surroundings bind holds for all of its places that are written after that, until another
parent says something else; where none has said anything, it is as for a node with one place.
-/

import IfChains.LiveTree.Basic
import IfChains.Printer.Tree

namespace IfChains

namespace LiveTree

/-- How tightly the surroundings of each node bind, as far as that has been said. -/
abbrev Bindings := Array (Option Precedence)

section Order

/-- The places of a role among the children of a node. -/
def placesOf (roles : List Role) (role : Role) : List Nat :=
  (List.range roles.length).filter fun place => roles[place]? == some role

/-- The places of parameters in the order in which they are written. -/
def parameterOrder (roles : List Role) (defaulted : List Bool) : List Nat :=
  let places := placesOf roles
  let positional := places .posonlyargs ++ places .args
  let free := positional.length - (places .defaults).length
  positional.take free ++
    (List.zipWith ([·, ·]) (positional.drop free) (places .defaults)).flatten ++
    places .vararg ++
    (List.zipWith (fun parameter default => parameter :: default.toList) (places .kwonlyargs)
      (withGaps defaulted (places .kwDefaults))).flatten ++
    places .kwarg

/-- The places of the children of a node in the order in which they are written. What the node says
about the children of one group is said before the first of them is written. -/
def writtenOrder (label : Label) (roles : List Role) : List (List Nat) :=
  let places := placesOf roles
  let one := fun (order : List Nat) => order.map ([·])
  match label with
  | .functionDef .. =>
    one (places .decoratorList ++ places .args ++ places .returns ++ places .body)
  | .classDef _ =>
    one (places .decoratorList ++ places .bases ++ places .keywords ++ places .body)
  | .ifExp => [places .body ++ places .test, places .orelse]
  | .comprehension _ => [places .target, places .iter ++ places .ifs]
  | .compare _ | .namedExpr | .matchOr => [List.range roles.length]
  | .dict keyed =>
    one (List.zipWith (fun key value => key.toList ++ [value]) (withGaps keyed (places .keys))
      (places .values)).flatten
  | .matchMapping _ => one (List.zipWith ([·, ·]) (places .keys) (places .patterns)).flatten
  | .arguments defaulted => one (parameterOrder roles defaulted)
  | _ => one (List.range roles.length)

end Order

section Bindings

/-- What a node says about a child in a place. -/
def saidOf (label : Label) (roles : List Role) (place : Nat) : Option Precedence :=
  (roles[place]?).bind fun role =>
    Setting.precedenceOf? label role ((roles.take place).count role)

/-- What is said about nodes after a parent has spoken about a child. -/
def record (bindings : Bindings) (child : NodeId) : Option Precedence → Bindings
  | none => bindings
  | some said => bindings.setIfInBounds child (some said)

/-- The tree beneath a node, down to a depth, each node with what has been said about it when it is
written. Within a replacement field, nothing has been said before. -/
def boundTreeWithin (live : LiveTree) : (depth : Nat) → NodeId → StateM Bindings
    (Tree (Option Precedence))
  | 0, _ => return .node none .module []
  | depth + 1, id => do
    match live.find? id with
    | none => return .node none .module []
    | some entry =>
      let outer ← get
      let isField := match entry.label with
        | .formattedValue _ => true
        | _ => false
      if isField then set (Array.replicate live.size (none : Option Precedence))
      let roles := entry.slots.map Prod.fst
      let trees ← (writtenOrder entry.label roles).mapM fun group => do
        let children := group.filterMap fun place =>
          (entry.slots[place]?).map fun slot => (place, slot.2)
        for (place, child) in children do
          set (record (← get) child (saidOf entry.label roles place))
        children.mapM fun (place, child) => do
          return (place, ← live.boundTreeWithin depth child)
      if isField then set outer
      let tree := fun place => (trees.flatten.lookup place).getD default
      return .node (outer[id]?.join) entry.label
        (roles.zipIdx.map fun (role, place) => (role, tree place))

/-- The source text of the tree beneath a node. -/
def print (live : LiveTree) (id : NodeId) : Except PrintFault String :=
  let nothing : Bindings := Array.replicate live.size none
  let (tree, _) := (live.boundTreeWithin live.size id).run nothing
  tree.printWith fun said => said

end Bindings

end LiveTree

end IfChains
