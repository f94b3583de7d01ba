/-
**Syntax trees.**

A node has a tag (its position, its number in a larger structure, or nothing), a label, and
its children in the order in which they are written down for its kind, each with its role. One type
serves every kind of node, so that a statement about "every node" is one induction.

* `map_map`, `map_id`: changing tags is functorial, so two trees are equal up to tags
  exactly when they have the same `shape`.
-/

import IfChains.Location
import IfChains.Syntax.Label

namespace IfChains

/-- A syntax tree whose nodes carry tags. -/
inductive Tree (α : Type) where
  | node (tag : α) (label : Label) (children : List (Role × Tree α))
deriving Repr

/-- The children of a node, each with its role. -/
abbrev Forest (α : Type) := List (Role × Tree α)

/-- A syntax tree as it is read from a text: nodes that have positions carry them. -/
abbrev SourceTree := Tree (Option Position)

namespace Tree

variable {α β γ : Type}

/-- The tag of the root. -/
def tag : Tree α → α
  | node tag _ _ => tag

/-- The label of the root. -/
def label : Tree α → Label
  | node _ label _ => label

/-- The children of the root. -/
def children : Tree α → Forest α
  | node _ _ children => children

instance [Inhabited α] : Inhabited (Tree α) := ⟨node default .module []⟩

section Equality

variable [DecidableEq α]

mutual

/-- Equality of trees is decidable. -/
def decEq : (first second : Tree α) → Decidable (first = second)
  | node a l c, node a' l' c' =>
    match decEqForest c c' with
    | isTrue same =>
      if h : a = a' ∧ l = l' then isTrue (by simp [same, h])
      else isFalse (by simp only [node.injEq]; exact fun all => h ⟨all.1, all.2.1⟩)
    | isFalse differ => isFalse (by simp [differ])

/-- Equality of forests is decidable. -/
def decEqForest : (first second : Forest α) → Decidable (first = second)
  | [], [] => isTrue rfl
  | [], _ :: _ => isFalse (by simp)
  | _ :: _, [] => isFalse (by simp)
  | (r, t) :: rest, (r', t') :: rest' =>
    match decEq t t', decEqForest rest rest' with
    | isTrue h, isTrue h' =>
      if hr : r = r' then isTrue (by simp [h, h', hr]) else isFalse (by simp [hr])
    | isFalse h, _ => isFalse (by simp [h])
    | _, isFalse h => isFalse (by simp [h])

end

instance : DecidableEq (Tree α) := decEq

end Equality

mutual

/-- The tree with every tag changed. -/
def map (change : α → β) : Tree α → Tree β
  | node tag label children => node (change tag) label (mapForest change children)

/-- The forest with every tag changed. -/
def mapForest (change : α → β) : Forest α → Forest β
  | [] => []
  | (role, tree) :: rest => (role, map change tree) :: mapForest change rest

end

/-- The tree without its tags. -/
def shape (tree : Tree α) : Tree Unit :=
  tree.map fun _ => ()

mutual

/-- Changing tags twice is changing them once. -/
theorem map_map (first : α → β) (second : β → γ) :
    (tree : Tree α) → (tree.map first).map second = tree.map (second ∘ first)
  | node _ _ children => by simp [map, mapForest_mapForest first second children]

/-- Changing tags of a forest twice is changing them once. -/
theorem mapForest_mapForest (first : α → β) (second : β → γ) : (forest : Forest α) →
    mapForest second (mapForest first forest) = mapForest (second ∘ first) forest
  | [] => rfl
  | (_, tree) :: rest => by
    simp [mapForest, map_map first second tree, mapForest_mapForest first second rest]

end

mutual

/-- Leaving tags alone leaves the tree alone. -/
theorem map_id : (tree : Tree α) → tree.map id = tree
  | node _ _ children => by simp [map, mapForest_id children]

/-- Leaving tags alone leaves the forest alone. -/
theorem mapForest_id : (forest : Forest α) → mapForest id forest = forest
  | [] => rfl
  | (_, tree) :: rest => by simp [mapForest, map_id tree, mapForest_id rest]

end

/-- The shape does not depend on the tags. -/
theorem shape_map (change : α → β) (tree : Tree α) : (tree.map change).shape = tree.shape := by
  simp [shape, map_map, Function.comp_def]

mutual

/-- The nodes of a tree, a node before its children and children in order. -/
def preorder : Tree α → List (Tree α)
  | node tag label children => node tag label children :: preorderForest children

/-- The nodes of a forest, a node before its children and children in order. -/
def preorderForest : Forest α → List (Tree α)
  | [] => []
  | (_, tree) :: rest => preorder tree ++ preorderForest rest

end

mutual

/-- The number of nodes. -/
def size : Tree α → Nat
  | node _ _ children => 1 + sizeForest children

/-- The number of nodes of a forest. -/
def sizeForest : Forest α → Nat
  | [] => 0
  | (_, tree) :: rest => size tree + sizeForest rest

end

/-- The children that have a role, in order. -/
def having (role : Role) (tree : Tree α) : List (Tree α) :=
  tree.children.filterMap fun child => if child.1 = role then some child.2 else none

/-- The first child that has a role. -/
def having? (role : Role) (tree : Tree α) : Option (Tree α) :=
  (tree.having role).head?

/-- The nodes of a forest in breadth-first order, level by level, down to a depth. -/
def levels : (depth : Nat) → List (Tree α) → List (Tree α)
  | 0, _ => []
  | _ + 1, [] => []
  | depth + 1, level => level ++ levels depth (level.flatMap fun tree => tree.children.map (·.2))

/-- The nodes that leave a queue of trees, each putting its children at the end, up to a number. -/
def queued : (count : Nat) → List (Tree α) → List (Tree α)
  | 0, _ => []
  | _ + 1, [] => []
  | count + 1, tree :: queue => tree :: queued count (queue ++ tree.children.map (·.2))

/-- The nodes of a tree in breadth-first order: by depth, and left to right at one depth. -/
def breadthFirst (tree : Tree α) : List (Tree α) :=
  queued tree.size [tree]

end Tree

end IfChains
