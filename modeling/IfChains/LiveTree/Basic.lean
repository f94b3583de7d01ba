/-
**A syntax tree that is rewritten in place.**

A `LiveTree` is a table of nodes. A node refers to its children by number and has a recorded parent,
which is kept when the node leaves the tree. Nodes are made detached; `replace` puts a node in the
place of another one and records the parents beneath it.

* `find?_push_old`, `find?_modify_other`: making a node and changing another one leave a node
  alone.
-/

import IfChains.Syntax.Tree

namespace IfChains

/-- The number of a node. -/
abbrev NodeId := Nat

/-- A node of a live tree. -/
structure Entry where
  label : Label
  position : Option Position
  /-- The children, each with its role. -/
  slots : List (Role × NodeId)
  /-- The recorded parent. -/
  parent : Option NodeId
deriving Repr, DecidableEq

/-- A table of nodes. -/
structure LiveTree where
  entries : Array Entry
deriving Repr

namespace LiveTree

section Access

variable (live : LiveTree)

/-- The number of nodes made so far. -/
def size : Nat :=
  live.entries.size

/-- The node of a given number. -/
def find? (id : NodeId) : Option Entry :=
  live.entries[id]?

/-- The children of a node. -/
def slots (id : NodeId) : List (Role × NodeId) :=
  ((live.find? id).map (·.slots)).getD []

/-- The children of a node that have a role. -/
def having (role : Role) (id : NodeId) : List NodeId :=
  (live.slots id).filterMap fun slot => if slot.1 = role then some slot.2 else none

/-- The recorded parent of a node. -/
def parent? (id : NodeId) : Option NodeId :=
  (live.find? id).bind (·.parent)

/-- The label of a node. -/
def label (id : NodeId) : Label :=
  ((live.find? id).map (·.label)).getD .module

/-- The location of a node; all zero if it has no position. -/
def location (id : NodeId) : Location :=
  Location.ofPosition ((live.find? id).bind (·.position))

end Access

section Construction

/-- A table without nodes. -/
def empty : LiveTree := ⟨#[]⟩

/-- Changes a node. -/
def modify (live : LiveTree) (id : NodeId) (change : Entry → Entry) : LiveTree :=
  ⟨live.entries.modify id change⟩

/-- Makes a detached node. -/
def push (live : LiveTree) (label : Label) (position : Option Position)
    (slots : List (Role × NodeId)) : NodeId × LiveTree :=
  (live.size, ⟨live.entries.push ⟨label, position, slots, none⟩⟩)

mutual

/-- Makes the nodes of a tree, all of them detached, children before their parent. -/
def plant (live : LiveTree) : SourceTree → NodeId × LiveTree
  | .node position label children =>
    let (slots, live) := plantForest live children
    live.push label position slots

/-- Makes the nodes of a forest. -/
def plantForest (live : LiveTree) : Forest (Option Position) → List (Role × NodeId) × LiveTree
  | [] => ([], live)
  | (role, tree) :: rest =>
    let (id, live) := plant live tree
    let (slots, live) := plantForest live rest
    ((role, id) :: slots, live)

end

end Construction

section Parents

/-- Records the parent of a node. -/
def adopt (parent : NodeId) (live : LiveTree) (id : NodeId) : LiveTree :=
  live.modify id fun entry => { entry with parent := some parent }

/-- Records the parents of all nodes beneath a node, down to a depth; of several parents the first
one counts. -/
def index : (depth : Nat) → LiveTree → NodeId → LiveTree
  | 0, live, _ => live
  | depth + 1, live, id =>
    let children := (live.slots id).map (·.2)
    let adopted := children.foldl (adopt id) live
    children.reverse.foldl (index depth) adopted

/-- The number of a tree's root, and the table of its nodes with their parents. -/
def ofTree (tree : SourceTree) : NodeId × LiveTree :=
  let (root, live) := empty.plant tree
  (root, live.index live.size root)

/-- Whether a node is another one or a recorded parent leads from it there, within some steps. -/
def reaches (live : LiveTree) (ancestor : NodeId) : (steps : Nat) → NodeId → Bool
  | 0, _ => false
  | steps + 1, id =>
    id == ancestor || match live.parent? id with
      | some parent => reaches live ancestor steps parent
      | none => false

/-- Whether a node is another one or lies beneath it. -/
def contains (live : LiveTree) (ancestor id : NodeId) : Bool :=
  live.reaches ancestor (live.size + 1) id

end Parents

section Replacement

/-- The children with a new node in the place of the first occurrence of an old one, which has to
occur. -/
def swapSlot (old new : NodeId) : List (Role × NodeId) → Option (List (Role × NodeId))
  | [] => none
  | (role, id) :: rest =>
    if id = old then some ((role, new) :: rest) else (swapSlot old new rest).map ((role, id) :: ·)

/-- The position that a node takes over from the one it replaces. -/
def inheritedPosition (old new : Entry) : Option Position :=
  if new.label.positioned && old.label.positioned then old.position.or new.position
  else new.position

/-- Puts a node in the place of another one; fails if that one is not attached to the tree. -/
def replace? (live : LiveTree) (old new : NodeId) : Option LiveTree := do
  let parent ← live.parent? old
  let slots ← swapSlot old new (live.slots parent)
  let oldEntry ← live.find? old
  let placed := (live.modify parent fun entry => { entry with slots := slots }).modify new
    fun entry =>
      { entry with position := inheritedPosition oldEntry entry, parent := some parent }
  return placed.index placed.size new

end Replacement

section View

/-- A node's number beside its position. -/
structure Tag where
  id : NodeId
  position : Option Position
deriving Repr, DecidableEq

instance : Inhabited Tag := ⟨⟨0, none⟩⟩

/-- The tree beneath a node, down to a depth. -/
def toTreeWithin (live : LiveTree) : (depth : Nat) → NodeId → Tree Tag
  | 0, id => .node ⟨id, none⟩ .module []
  | depth + 1, id =>
    match live.find? id with
    | some entry => .node ⟨id, entry.position⟩ entry.label
        (entry.slots.map fun slot => (slot.1, toTreeWithin live depth slot.2))
    | none => .node ⟨id, none⟩ .module []

/-- The tree beneath a node. -/
def toTree (live : LiveTree) (id : NodeId) : Tree Tag :=
  live.toTreeWithin live.size id

end View

section Lemmas

variable (live : LiveTree)

/-- Making a node leaves the others alone. -/
theorem find?_push_old {id : NodeId} (label : Label) (position : Option Position)
    (slots : List (Role × NodeId)) (old : id < live.size) :
    (live.push label position slots).2.find? id = live.find? id := by
  simp only [push, find?, size] at *
  rw [Array.getElem?_push]
  simp [Nat.ne_of_lt old]

/-- Changing a node leaves the others alone. -/
theorem find?_modify_other {id other : NodeId} (change : Entry → Entry) (different : id ≠ other) :
    (live.modify id change).find? other = live.find? other := by
  simp [modify, find?, Array.getElem?_modify, different]

/-- Changing a node makes no node. -/
@[simp]
theorem size_modify (id : NodeId) (change : Entry → Entry) :
    (live.modify id change).size = live.size := by
  simp [modify, size]

end Lemmas

end LiveTree

end IfChains
