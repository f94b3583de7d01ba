/-
**The tree that a table shows.**

The tree beneath a node of a table is cut off at a depth. Each of its nodes is shown as the table has
it, with its label and with its children in order, or it is cut off and passes for an empty module.
The references to a name are looked for in the tree that is shown. So they are names in a tree that
the table reads as.

* `toTreeWithin_succ`: a node of the table and what is beneath it;
* `shown_of_mem`: every node of the tree is shown as the table has it, or is cut off;
* `exists_of_collect`: what is collected in a tree are tags of names that are read;
* `mem_referencesTo`: the references to a name in a table.
-/

import IfChains.Proofs.Chain.Spine
import IfChains.Proofs.LiveTree.Reading
import IfChains.Transform

namespace IfChains

open IfChains.Tree

namespace LiveTree

variable {live : LiveTree} {id : NodeId} {node : Tree Tag}

/-- A node of a tree is shown as the table has it. -/
structure Shown (live : LiveTree) (node : Tree Tag) : Prop where
  label : node.label = live.label node.tag.id
  slots : node.children.map (fun child => (child.1, child.2.tag.id)) = live.slots node.tag.id
  known : node.tag.id < live.size

/-- A node of a tree that is cut off. -/
def Cut (node : Tree Tag) : Prop :=
  node.label = .module ∧ node.children = []

@[simp]
theorem tag_toTreeWithin (depth : Nat) (id : NodeId) :
    (live.toTreeWithin depth id).tag.id = id := by
  cases depth with
  | zero => rfl
  | succ depth =>
    rw [toTreeWithin]
    split <;> rfl

/-- **A node of the table and what is beneath it.** -/
theorem toTreeWithin_succ (depth : Nat) (known : id < live.size) :
    live.toTreeWithin (depth + 1) id = .node ⟨id, live.position? id⟩ (live.label id)
      ((live.slots id).map fun slot => (slot.1, live.toTreeWithin depth slot.2)) := by
  have bound : id < live.entries.size := known
  have found : live.find? id = some live.entries[id] := Array.getElem?_eq_getElem bound
  rw [toTreeWithin, found, position?, label, slots, found]
  rfl

/-- What is no node is cut off. -/
theorem toTreeWithin_of_size_le (depth : Nat) (outside : live.size ≤ id) :
    live.toTreeWithin depth id = .node ⟨id, none⟩ .module [] := by
  cases depth with
  | zero => rfl
  | succ depth =>
    have missing : live.find? id = none := Array.getElem?_eq_none outside
    rw [toTreeWithin, missing]

/-- A node that is not cut off is shown as the table has it. -/
theorem shown_toTreeWithin (depth : Nat) (known : id < live.size) :
    live.Shown (live.toTreeWithin (depth + 1) id) := by
  rw [toTreeWithin_succ depth known]
  refine ⟨rfl, ?_, known⟩
  rw [children, List.map_map]
  exact List.map_id'' (fun slot => by simp) _

/-- **Every node of the tree is shown as the table has it**, or is cut off. -/
theorem shown_of_mem {depth : Nat} (member : node ∈ (live.toTreeWithin depth id).preorder) :
    Cut node ∨ live.Shown node := by
  induction depth generalizing id with
  | zero =>
    obtain rfl := List.mem_singleton.mp member
    exact Or.inl ⟨rfl, rfl⟩
  | succ depth ih =>
    rcases Nat.lt_or_ge id live.size with known | outside
    · have shown : live.Shown (live.toTreeWithin (depth + 1) id) := shown_toTreeWithin depth known
      rw [toTreeWithin_succ depth known] at member shown
      rcases mem_preorder_node.mp member with rfl | ⟨child, inside, deeper⟩
      · exact Or.inr shown
      · obtain ⟨slot, -, rfl⟩ := List.mem_map.mp inside
        exact ih deeper
    · rw [toTreeWithin_of_size_le _ outside] at member
      obtain rfl := List.mem_singleton.mp member
      exact Or.inl ⟨rfl, rfl⟩

/-- The label of a node that is shown or cut off. -/
theorem label_of_mem {depth : Nat} (member : node ∈ (live.toTreeWithin depth id).preorder) :
    node.label = .module ∨ node.label = live.label node.tag.id :=
  (shown_of_mem member).imp And.left Shown.label

/-- A child of a node that is shown is in a slot of the node. -/
theorem Shown.slot_of_child (shown : live.Shown node) {child : Role × Tree Tag}
    (member : child ∈ node.children) : (child.1, child.2.tag.id) ∈ live.slots node.tag.id :=
  shown.slots ▸ List.mem_map_of_mem member

end LiveTree

namespace Scope

variable {α : Type} {name module : String} {tag : α}

/-- What is in some order was found. -/
theorem exists_of_mem_inOrder {roles : List Role} {found : List (Role × List α)}
    (member : tag ∈ inOrder roles found) : ∃ child ∈ found, tag ∈ child.2 := by
  obtain ⟨role, -, inRole⟩ := List.mem_flatMap.mp member
  obtain ⟨child, among, inside⟩ := List.mem_flatMap.mp inRole
  split at inside
  · exact ⟨child, among, inside⟩
  · exact absurd inside List.not_mem_nil

mutual

/-- **What is collected in a tree** are the tags of names that are read. -/
theorem exists_of_collect {zone : Zone} : (tree : Tree α) →
    tag ∈ collect name module zone tree →
    ∃ node ∈ tree.preorder, node.tag = tag ∧ node.label = .name name .load
  | .node root label children => by
    intro member
    rw [collect] at member
    rcases List.mem_append.mp member with here | beneath
    · split at here
      · rename_i both
        simp only [Bool.and_eq_true, decide_eq_true_eq] at both
        exact ⟨_, self_mem_preorder _, (List.mem_singleton.mp here).symm, both.1⟩
      · exact absurd here List.not_mem_nil
    · have found : ∃ child ∈ collectForest name module (zoneOf label zone (innerShadow label
          zone.shadow ((ownNames module (.node root label children)).contains name))) true children,
          tag ∈ child.2 := by
        split at beneath
        · exact exists_of_mem_inOrder beneath
        · exact List.mem_flatMap.mp beneath
      obtain ⟨child, among, inside⟩ := found
      obtain ⟨tree, isChild, node, deeper, same⟩ :=
        exists_of_collectForest children child among inside
      exact ⟨node, mem_preorder_node.mpr (Or.inr ⟨tree, isChild, deeper⟩), same⟩

/-- What is collected in a forest is collected in its trees. -/
theorem exists_of_collectForest {zone : Bool → Role → Zone} {first : Bool} : (forest : Forest α) →
    ∀ found ∈ collectForest name module zone first forest, tag ∈ found.2 →
    ∃ child ∈ forest, ∃ node ∈ child.2.preorder, node.tag = tag ∧ node.label = .name name .load
  | [] => fun found absent => absurd absent (by rw [collectForest]; exact List.not_mem_nil)
  | (role, tree) :: rest => by
    intro found member inside
    rw [collectForest] at member
    rcases List.mem_cons.mp member with rfl | later
    · exact ⟨_, List.mem_cons_self, exists_of_collect tree inside⟩
    · obtain ⟨child, among, isName⟩ := exists_of_collectForest rest found later inside
      exact ⟨child, List.mem_cons_of_mem _ among, isName⟩

end

end Scope

namespace Transform

variable {live : LiveTree} {tree : NumberedTree} {module name : String} {id : NodeId}

/-- **The references to a name in a table** are names in the tree that the table reads as. -/
theorem mem_referencesTo (reads : live.Reads tree) (distinct : tree.tags.Nodup)
    (member : id ∈ referencesTo module name tree.tag live) :
    ∃ node ∈ tree.preorder, node.tag = id ∧ node.label = .name name .load := by
  obtain ⟨tag, collected, rfl⟩ := List.mem_map.mp member
  rw [Scope.references, List.mem_mergeSort] at collected
  obtain ⟨node, inside, rfl, label⟩ := Scope.exists_of_collect _ collected
  rw [reads.toTree_eq distinct, preorder_map] at inside
  obtain ⟨inner, among, rfl⟩ := List.mem_map.mp inside
  rw [label_map] at label
  exact ⟨inner, among, by rw [tag_map], label⟩

end Transform

end IfChains
