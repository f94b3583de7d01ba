/-
**Trees that stand in a table of nodes.**

A table reads as a tree if it holds, for every node of the tree, an entry with the label of the node
and the numbers of its children.

* `Reads.having`: the children of a node as the table gives them;
* `Reads.toTree_eq`: the tree that the table gives is the one it reads as;
* `Reads.grown`, `reads_push`: making a node leaves what is read alone, and adds the node;
* `Reads.fill`: a change inside a context leaves the context alone.
-/

import IfChains.LiveTree.Basic
import IfChains.Proofs.Syntax.Context
import Mathlib.Data.List.Perm.Subperm

namespace IfChains

open IfChains.Tree

/-- A tree whose nodes have numbers. -/
abbrev NumberedTree := Tree NodeId

namespace LiveTree

/-- The label and the children of a node. -/
def content? (live : LiveTree) (id : NodeId) : Option (Label × List (Role × NodeId)) :=
  (live.find? id).map fun entry => (entry.label, entry.slots)

/-- The position of a node. -/
def position? (live : LiveTree) (id : NodeId) : Option Position :=
  (live.find? id).bind (·.position)

/-- The numbers of some children, each with its role. -/
def slotsOf (children : Forest NodeId) : List (Role × NodeId) :=
  children.map fun child => (child.1, child.2.tag)

/-- The table holds a node with its label and its children. -/
def Holds (live : LiveTree) (node : NumberedTree) : Prop :=
  live.content? node.tag = some (node.label, slotsOf node.children)

/-- The table holds all nodes of a tree. -/
def Reads (live : LiveTree) (tree : NumberedTree) : Prop :=
  ∀ node ∈ tree.preorder, live.Holds node

variable {live live' : LiveTree}

section Content

theorem label_eq (id : NodeId) :
    live.label id = ((live.content? id).map Prod.fst).getD .module := by
  rw [label, content?, Option.map_map]
  rfl

theorem slots_eq (id : NodeId) : live.slots id = ((live.content? id).map Prod.snd).getD [] := by
  rw [slots, content?, Option.map_map]
  rfl

/-- A number with a content is that of a node. -/
theorem lt_size_of_content {id : NodeId} {content : Label × List (Role × NodeId)}
    (held : live.content? id = some content) : id < live.size := by
  obtain ⟨entry, found, -⟩ := Option.map_eq_some_iff.mp held
  exact (Array.getElem?_eq_some_iff.mp found).1

/-- The content of a node. -/
theorem content?_of_lt {id : NodeId} (known : id < live.size) :
    live.content? id = some (live.label id, live.slots id) := by
  have bound : id < live.entries.size := known
  have found : live.find? id = some live.entries[id] := Array.getElem?_eq_getElem bound
  rw [content?, label, slots, found]
  rfl

/-- Making a node leaves the contents of the others alone. -/
theorem content?_push_old {id : NodeId} (label : Label) (position : Option Position)
    (slots : List (Role × NodeId)) (old : id < live.size) :
    (live.push label position slots).2.content? id = live.content? id := by
  rw [content?, find?_push_old live label position slots old, content?]

/-- The content of a node that was made. -/
theorem content?_push_new (label : Label) (position : Option Position)
    (slots : List (Role × NodeId)) :
    (live.push label position slots).2.content? live.size = some (label, slots) := by
  simp [content?, find?, push, size]

@[simp]
theorem size_push (label : Label) (position : Option Position) (slots : List (Role × NodeId)) :
    (live.push label position slots).2.size = live.size + 1 := by
  simp [push, size]

/-- A node that is made is detached, and the others keep their parents. -/
theorem parent?_push (id : NodeId) (label : Label) (position : Option Position)
    (slots : List (Role × NodeId)) :
    (live.push label position slots).2.parent? id = live.parent? id := by
  simp only [parent?, find?, push, Array.getElem?_push]
  split
  · subst id
    simp
  · rfl

end Content

section Reading

/-- A table reads as a node if it holds the node and reads as its children. -/
theorem reads_node {tag : NodeId} {label : Label} {children : Forest NodeId} :
    live.Reads (.node tag label children) ↔
      live.content? tag = some (label, slotsOf children) ∧
        ∀ child ∈ children, live.Reads child.2 := by
  constructor
  · intro reads
    refine ⟨reads _ (self_mem_preorder _), fun child member node inside => reads node ?_⟩
    exact mem_preorder_trans inside (child_mem_preorder member)
  · rintro ⟨here, beneath⟩ node member
    rcases mem_preorder_node.mp member with rfl | ⟨child, inside, deeper⟩
    · exact here
    · exact beneath child inside node deeper

/-- A table that reads as a tree reads as its nodes. -/
theorem Reads.of_mem {inner outer : NumberedTree} (reads : live.Reads outer)
    (member : inner ∈ outer.preorder) : live.Reads inner :=
  fun node inside => reads node (mem_preorder_trans inside member)

/-- What is read depends on the contents of the nodes. -/
theorem Reads.congr {tree : NumberedTree} (reads : live.Reads tree)
    (same : ∀ id ∈ tree.tags, live'.content? id = live.content? id) : live'.Reads tree :=
  fun node member => (same node.tag (List.mem_map_of_mem member)).trans (reads node member)

/-- The numbers of a tree are those of nodes. -/
theorem Reads.lt_size {tree : NumberedTree} (reads : live.Reads tree) {id : NodeId}
    (member : id ∈ tree.tags) : id < live.size := by
  obtain ⟨node, inside, rfl⟩ := exists_of_mem_tags member
  exact lt_size_of_content (reads node inside)

/-- The label of a node. -/
theorem Reads.label {tree : NumberedTree} (reads : live.Reads tree) :
    live.label tree.tag = tree.label := by
  rw [label_eq, reads tree (self_mem_preorder tree)]
  rfl

/-- The children of a node. -/
theorem Reads.slots {tree : NumberedTree} (reads : live.Reads tree) :
    live.slots tree.tag = slotsOf tree.children := by
  rw [slots_eq, reads tree (self_mem_preorder tree)]
  rfl

/-- **The children of a node that have a role.** -/
theorem Reads.having {tree : NumberedTree} (reads : live.Reads tree) (role : Role) :
    live.having role tree.tag = (tree.having role).map Tree.tag := by
  rw [LiveTree.having, reads.slots, slotsOf, Tree.having, List.filterMap_map, List.map_filterMap]
  congr 1
  funext child
  simp only [Function.comp_apply]
  split <;> rfl

/-- A tree with different numbers has no more nodes than the table. -/
theorem Reads.size_le {tree : NumberedTree} (reads : live.Reads tree) (distinct : tree.tags.Nodup) :
    tree.size ≤ live.size := by
  have inside : tree.tags ⊆ List.range live.size := fun id member =>
    List.mem_range.mpr (reads.lt_size member)
  have shorter := (distinct.subperm inside).length_le
  rwa [length_tags, List.length_range] at shorter

/-- The tree that the table gives down to a sufficient depth. -/
theorem Reads.toTreeWithin {tree : NumberedTree} (reads : live.Reads tree) {depth : Nat}
    (deep : tree.size ≤ depth) :
    live.toTreeWithin depth tree.tag = tree.map fun id => ⟨id, live.position? id⟩ := by
  induction tree using Tree.induction generalizing depth with
  | node tag label children ih =>
    obtain ⟨here, beneath⟩ := reads_node.mp reads
    obtain ⟨entry, found, content⟩ := Option.map_eq_some_iff.mp here
    obtain ⟨rfl, slots⟩ := Prod.mk.inj content
    obtain ⟨depth, rfl⟩ : ∃ rest, depth = rest + 1 :=
      Nat.exists_eq_add_one.mpr (by rw [Tree.size] at deep; omega)
    have children_eq : entry.slots.map (fun slot => (slot.1, live.toTreeWithin depth slot.2)) =
        children.map fun child => (child.1, child.2.map fun id => ⟨id, live.position? id⟩) := by
      rw [slots, slotsOf, List.map_map]
      refine List.map_congr_left fun child member => ?_
      have smaller : child.2.size < (Tree.node tag entry.label children).size :=
        size_child_lt member
      exact Prod.ext rfl (ih child member (beneath child member) (by omega))
    have position : live.position? tag = entry.position := by
      rw [position?, found]
      rfl
    rw [Tree.tag, LiveTree.toTreeWithin, found, Tree.map, mapForest_eq, position]
    exact congrArg _ children_eq

/-- **The tree that the table gives** is the one it reads as, with the positions of the nodes. -/
theorem Reads.toTree_eq {tree : NumberedTree} (reads : live.Reads tree)
    (distinct : tree.tags.Nodup) :
    live.toTree tree.tag = tree.map fun id => ⟨id, live.position? id⟩ :=
  reads.toTreeWithin (reads.size_le distinct)

/-- The numbers of the tree that the table gives are those of the one it reads as. -/
theorem Reads.toTree {tree : NumberedTree} (reads : live.Reads tree) (distinct : tree.tags.Nodup) :
    (live.toTree tree.tag).map Tag.id = tree := by
  rw [reads.toTree_eq distinct, map_map]
  exact map_id tree

end Reading

section Growing

/-- A table with further nodes. -/
structure Grown (live live' : LiveTree) : Prop where
  size : live.size ≤ live'.size
  content : ∀ id < live.size, live'.content? id = live.content? id
  parent : ∀ id, live'.parent? id = live.parent? id

theorem Grown.refl (live : LiveTree) : Grown live live :=
  ⟨Nat.le_refl _, fun _ _ => rfl, fun _ => rfl⟩

theorem Grown.trans {live'' : LiveTree} (first : Grown live live') (second : Grown live' live'') :
    Grown live live'' := by
  refine ⟨Nat.le_trans first.size second.size, fun id old => ?_, fun id => ?_⟩
  · exact (second.content id (Nat.lt_of_lt_of_le old first.size)).trans (first.content id old)
  · exact (second.parent id).trans (first.parent id)

/-- Making a node leaves the others alone. -/
theorem grown_push (label : Label) (position : Option Position) (slots : List (Role × NodeId)) :
    Grown live (live.push label position slots).2 := by
  refine ⟨?_, fun id old => content?_push_old label position slots old, fun id => parent?_push ..⟩
  rw [size_push]
  exact Nat.le_succ _

/-- What is read stays when the table grows. -/
theorem Reads.grown {tree : NumberedTree} (reads : live.Reads tree) (grown : Grown live live') :
    live'.Reads tree :=
  reads.congr fun id member => grown.content id (reads.lt_size member)

/-- A node that is made is read with its children. -/
theorem reads_push {label : Label} {position : Option Position} {children : Forest NodeId}
    (beneath : ∀ child ∈ children, live.Reads child.2) :
    (live.push label position (slotsOf children)).2.Reads (.node live.size label children) :=
  reads_node.mpr ⟨content?_push_new label position _,
    fun child member => (beneath child member).grown (grown_push label position _)⟩

end Growing

section Changing

/-- What is in the hole of a frame may be read from another table, if the frame stays. -/
theorem Reads.frame {frame : Frame NodeId} {first second : NumberedTree}
    (reads : live.Reads (frame.fill first))
    (same : ∀ id ∈ frame.tags, live'.content? id = live.content? id)
    (tag : second.tag = first.tag) (inside : live'.Reads second) :
    live'.Reads (frame.fill second) := by
  obtain ⟨here, beneath⟩ := reads_node.mp reads
  have sibling : ∀ child ∈ frame.before ++ frame.after, live'.Reads child.2 := by
    intro child member
    have old : child ∈ frame.before ++ (frame.role, first) :: frame.after := by
      rcases List.mem_append.mp member with before | after
      · exact List.mem_append_left _ before
      · exact List.mem_append_right _ (List.mem_cons_of_mem _ after)
    refine (beneath child old).congr fun id deeper => same id (List.mem_cons_of_mem _ ?_)
    rw [← tagsIn_append]
    exact mem_tagsIn.mpr ⟨child, member, deeper⟩
  refine reads_node.mpr ⟨?_, fun child member => ?_⟩
  · rw [same frame.tag List.mem_cons_self, here]
    simp [slotsOf, tag]
  · rcases List.mem_append.mp member with before | after
    · exact sibling child (List.mem_append_left _ before)
    · rcases List.mem_cons.mp after with rfl | after
      · exact inside
      · exact sibling child (List.mem_append_right _ after)

/-- **What is in the hole of a context may be read from another table**, if the context stays. -/
theorem Reads.fill {context : Context NodeId} {first second : NumberedTree}
    (reads : live.Reads (Context.fill context first))
    (same : ∀ id ∈ Context.tags context, live'.content? id = live.content? id)
    (tag : second.tag = first.tag) (inside : live'.Reads second) :
    live'.Reads (Context.fill context second) := by
  induction context generalizing first second with
  | nil => exact inside
  | cons frame outer ih =>
    have framed : live.Reads (frame.fill first) := reads.of_mem (mem_preorder_fill outer _)
    refine @ih (frame.fill first) (frame.fill second) reads ?_ rfl ?_
    · exact fun id member => same id (List.mem_append_right _ member)
    · exact framed.frame (fun id member => same id (List.mem_append_left _ member)) tag inside

end Changing

end LiveTree

end IfChains
