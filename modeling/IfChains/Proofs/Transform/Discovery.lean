/-
**What the search for bindings finds.**

The search looks at all nodes of a tree in breadth-first order. It reacts to imports from the macro
module and to imports of the module as a whole, and to nothing else.

* `Tree.mem_breadthFirst`: breadth-first order leaves out no node;
* `bindings_eq_nil`: a tree without a node that the search reacts to binds no name;
* `noWhole_of_bindings`: a tree for which the search succeeds does not import the module as a whole.
-/

import IfChains.Imports
import IfChains.Proofs.Syntax.Nodes
import Mathlib.Algebra.GroupWithZero.Nat

namespace IfChains

namespace Tree

variable {α : Type} {node tree : Tree α} {queue : List (Tree α)} {count : Nat}

section Queues

/-- What leaves a queue is a node of one of its trees. -/
theorem exists_of_mem_queued (member : node ∈ queued count queue) :
    ∃ tree ∈ queue, node ∈ tree.preorder := by
  induction count generalizing queue with
  | zero => exact absurd member List.not_mem_nil
  | succ count ih =>
    cases queue with
    | nil => exact absurd member List.not_mem_nil
    | cons first rest =>
      rcases List.mem_cons.mp member with rfl | later
      · exact ⟨node, List.mem_cons_self, self_mem_preorder node⟩
      · obtain ⟨tree, inside, beneath⟩ := ih later
        rcases List.mem_append.mp inside with waiting | child
        · exact ⟨tree, List.mem_cons_of_mem _ waiting, beneath⟩
        · obtain ⟨⟨role, tree⟩, among, rfl⟩ := List.mem_map.mp child
          exact ⟨first, List.mem_cons_self,
            mem_preorder_trans beneath (child_mem_preorder among)⟩

/-- The number of nodes of a tree is one more than that of its children. -/
theorem size_eq (tree : Tree α) :
    tree.size = 1 + ((tree.children.map (·.2)).map size).sum := by
  obtain ⟨tag, label, children⟩ := tree
  rw [size, Tree.children]
  congr 1
  induction children with
  | nil => rfl
  | cons child rest ih =>
    obtain ⟨role, tree⟩ := child
    rw [sizeForest, ih]
    rfl

/-- Every node of the trees in a queue leaves it, if enough may leave. -/
theorem mem_queued (enough : (queue.map size).sum ≤ count) (inside : tree ∈ queue)
    (beneath : node ∈ tree.preorder) : node ∈ queued count queue := by
  induction count generalizing queue tree with
  | zero =>
    cases queue with
    | nil => exact absurd inside List.not_mem_nil
    | cons first rest =>
      rw [List.map_cons, List.sum_cons, size_eq first] at enough
      omega
  | succ count ih =>
    cases queue with
    | nil => exact absurd inside List.not_mem_nil
    | cons first rest =>
      have enough' : ((rest ++ first.children.map (·.2)).map size).sum ≤ count := by
        rw [List.map_cons, List.sum_cons, size_eq first] at enough
        rw [List.map_append, List.sum_append]
        omega
      rcases List.mem_cons.mp inside with rfl | waiting
      · rcases mem_preorder_iff.mp beneath with rfl | ⟨child, among, deeper⟩
        · exact List.mem_cons_self
        · refine List.mem_cons_of_mem _ (ih enough' (List.mem_append_right _ ?_) deeper)
          exact List.mem_map_of_mem among
      · exact List.mem_cons_of_mem _ (ih enough' (List.mem_append_left _ waiting) beneath)

/-- **Breadth-first order leaves out no node** and adds none. -/
theorem mem_breadthFirst : node ∈ tree.breadthFirst ↔ node ∈ tree.preorder := by
  constructor
  · intro member
    obtain ⟨outer, inside, beneath⟩ := exists_of_mem_queued member
    exact List.mem_singleton.mp inside ▸ beneath
  · exact mem_queued (by simp) (List.mem_singleton_self tree)

end Queues

end Tree

namespace Imports

open IfChains.Tree

variable {α β : Type} {module : String}

/-- An import that the search for bindings reacts to. -/
def Reacts (module : String) (node : Tree α) : Prop :=
  isFrom module node.label = true ∨
    node.label = .importStmt ∧ ∃ item ∈ aliases node, item.1 = module

/-- No statement imports the module as a whole. -/
def NoWhole (module : String) (tree : Tree α) : Prop :=
  ∀ node ∈ tree.preorder, node.label = .importStmt → ∀ item ∈ aliases node, item.1 ≠ module

section Tags

/-- What an import statement lists does not depend on tags. -/
theorem aliases_map (change : α → β) (tree : Tree α) : aliases (tree.map change) = aliases tree := by
  rw [aliases, aliases, children_map, List.filterMap_map]
  congr 1
  funext child
  rw [Function.comp_apply, label_map]

theorem reacts_map (change : α → β) (node : Tree α) :
    Reacts module (node.map change) ↔ Reacts module node := by
  rw [Reacts, Reacts, label_map, aliases_map]

/-- What holds of the nodes of a tree holds of those of another tree of its shape, if tags do not
matter. -/
theorem forall_of_shape_eq {first : Tree α} {second : Tree β} (holds : Tree Unit → Prop)
    (same : first.shape = second.shape) (all : ∀ node ∈ first.preorder, holds node.shape) :
    ∀ node ∈ second.preorder, holds node.shape := by
  have shapes : first.preorder.map shape = second.preorder.map shape := by
    have first_eq := preorder_map (fun _ => ()) first
    have second_eq := preorder_map (fun _ => ()) second
    exact first_eq.symm.trans ((congrArg preorder same).trans second_eq)
  intro node member
  have inside : node.shape ∈ first.preorder.map shape := shapes ▸ List.mem_map_of_mem member
  obtain ⟨other, among, equal⟩ := List.mem_map.mp inside
  exact equal ▸ all other among

/-- Trees of one shape are searched alike. -/
theorem not_reacts_of_shape_eq {first : Tree α} {second : Tree β}
    (same : first.shape = second.shape) (silent : ∀ node ∈ first.preorder, ¬Reacts module node) :
    ∀ node ∈ second.preorder, ¬Reacts module node := by
  have shapes := forall_of_shape_eq (fun node => ¬Reacts module node) same
    fun node member => (reacts_map _ node).not.mpr (silent node member)
  exact fun node member => (reacts_map _ node).not.mp (shapes node member)

theorem noWhole_of_shape_eq {first : Tree α} {second : Tree β}
    (same : first.shape = second.shape) (noWhole : NoWhole module first) :
    NoWhole module second := by
  have shapes := forall_of_shape_eq (fun node => node.label = .importStmt →
    ∀ item ∈ aliases node, item.1 ≠ module) same (fun node member => by
      rw [shape, label_map, aliases_map]
      exact noWhole node member)
  intro node member
  have here := shapes node member
  rwa [shape, label_map, aliases_map] at here

end Tags

section Searching

variable {node tree : SourceTree} {names found : List String} {nodes : List SourceTree}

/-- The search does not react to other nodes. -/
theorem ofNode_eq_nil (silent : ¬Reacts module node) : ofNode module node = .ok [] := by
  rw [Reacts, not_or, not_and, Bool.not_eq_true] at silent
  obtain ⟨noFrom, noWhole⟩ := silent
  unfold ofNode
  dsimp only
  split
  · rename_i isImport
    rw [if_neg fun any => ?_]
    obtain ⟨item, member, same⟩ := List.any_eq_true.mp any
    exact noWhole isImport ⟨item, member, beq_iff_eq.mp same⟩
  · rw [noFrom]
    rfl

/-- Nodes that the search does not react to add no name. -/
theorem collect_eq (silent : ∀ node ∈ nodes, ¬Reacts module node) :
    collect module names nodes = .ok names := by
  induction nodes with
  | nil => rfl
  | cons first rest ih =>
    obtain ⟨here, later⟩ := List.forall_mem_cons.mp silent
    rw [collect, ofNode_eq_nil here]
    exact ih later

/-- **A tree without a node that the search reacts to** binds no name. -/
theorem bindings_eq_nil (silent : ∀ node ∈ tree.preorder, ¬Reacts module node) :
    bindings module tree = .ok [] :=
  collect_eq fun node member => silent node (mem_breadthFirst.mp member)

/-- A statement that imports the module as a whole is refused. -/
theorem ne_of_ofNode (accepted : ofNode module node = .ok found) (isImport : node.label = .importStmt) :
    ∀ item ∈ aliases node, item.1 ≠ module := by
  intro item member same
  have any : ((aliases node).any fun item => item.1 == module) = true :=
    List.any_eq_true.mpr ⟨item, member, beq_iff_eq.mpr same⟩
  unfold ofNode at accepted
  dsimp only at accepted
  rw [if_pos isImport, if_pos any] at accepted
  exact nomatch accepted

/-- The search stops at the first statement that is refused. -/
theorem exists_of_collect (accepted : collect module names nodes = .ok found) :
    ∀ node ∈ nodes, ∃ bound, ofNode module node = .ok bound := by
  induction nodes generalizing names with
  | nil => exact fun node absent => absurd absent List.not_mem_nil
  | cons first rest ih =>
    rw [collect] at accepted
    cases here : ofNode module first with
    | error fault =>
      rw [here] at accepted
      exact nomatch accepted
    | ok bound =>
      rw [here] at accepted
      exact List.forall_mem_cons.mpr ⟨⟨bound, here⟩, ih accepted⟩

/-- **A tree for which the search succeeds** does not import the module as a whole. -/
theorem noWhole_of_bindings (accepted : bindings module tree = .ok names) :
    NoWhole module tree := by
  intro node member isImport
  obtain ⟨bound, same⟩ := exists_of_collect accepted node (mem_breadthFirst.mpr member)
  exact ne_of_ofNode same isImport

end Searching

end Imports

end IfChains
