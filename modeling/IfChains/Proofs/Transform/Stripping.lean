/-
**Removing the imports of the macro module from a tree.**

* `mem_strip`: what is left of a tree are its nodes without the imports, and `pass` statements;
* `isFrom_eq_false_of_mem`: beneath the root there is no import from the module;
* `children_strip`: a node without such imports among its children keeps them all;
* `exists_in_block`: a block with statements does not become empty, but that of the module may.
-/

import IfChains.Proofs.Syntax.Nodes
import IfChains.Strip

namespace IfChains

open IfChains.Tree

namespace Strip

variable {α : Type} {module : String} {blank : α} {tree node : Tree α} {child : Role × Tree α}
  {hollow : Role → Bool} {filled : List Role} {forest : Forest α}

@[simp]
theorem tag_strip (module : String) (blank : α) (tree : Tree α) :
    (strip module blank tree).tag = tree.tag := by
  obtain ⟨tag, label, children⟩ := tree
  rw [strip, Tree.tag, Tree.tag]

@[simp]
theorem label_strip (module : String) (blank : α) (tree : Tree α) :
    (strip module blank tree).label = tree.label := by
  obtain ⟨tag, label, children⟩ := tree
  rw [strip, Tree.label, Tree.label]

section Children

/-- A child that is left is a `pass` statement or what is left of a child. -/
theorem mem_stripForest (member : child ∈ stripForest module blank hollow filled forest) :
    child.2 = pass blank ∨ ∃ before ∈ forest, Imports.isFrom module before.2.label = false ∧
      child = (before.1, strip module blank before.2) := by
  induction forest generalizing filled with
  | nil =>
    rw [stripForest] at member
    exact absurd member List.not_mem_nil
  | cons first rest ih =>
    obtain ⟨role, tree⟩ := first
    have later : ∀ {filled}, child ∈ stripForest module blank hollow filled rest →
        child.2 = pass blank ∨ ∃ before ∈ (role, tree) :: rest,
          Imports.isFrom module before.2.label = false ∧
            child = (before.1, strip module blank before.2) := by
      intro filled beneath
      refine (ih beneath).imp_right fun ⟨before, inside, same⟩ => ?_
      exact ⟨before, List.mem_cons_of_mem _ inside, same⟩
    rw [stripForest] at member
    split at member
    · split at member
      · rcases List.mem_cons.mp member with rfl | beneath
        · exact Or.inl rfl
        · exact later beneath
      · exact later member
    · rename_i kept
      rcases List.mem_cons.mp member with rfl | beneath
      · exact Or.inr ⟨_, List.mem_cons_self, Bool.eq_false_iff.mpr kept, rfl⟩
      · exact later beneath

/-- A child that is no import from the module is left. -/
theorem mem_stripForest_of_mem (member : child ∈ forest)
    (kept : Imports.isFrom module child.2.label = false) :
    (child.1, strip module blank child.2) ∈ stripForest module blank hollow filled forest := by
  induction forest generalizing filled with
  | nil => exact absurd member List.not_mem_nil
  | cons first rest ih =>
    obtain ⟨role, tree⟩ := first
    rw [stripForest]
    rcases List.mem_cons.mp member with rfl | later
    · rw [if_neg (Bool.eq_false_iff.mp kept)]
      exact List.mem_cons_self
    · split
      · split
        · exact List.mem_cons_of_mem _ (ih later)
        · exact ih later
      · exact List.mem_cons_of_mem _ (ih later)

/-- Children without imports from the module are all left. -/
theorem stripForest_eq_map
    (kept : ∀ child ∈ forest, Imports.isFrom module child.2.label = false) :
    stripForest module blank hollow filled forest =
      forest.map fun child => (child.1, strip module blank child.2) := by
  induction forest with
  | nil => rw [stripForest, List.map_nil]
  | cons first rest ih =>
    obtain ⟨here, later⟩ := List.forall_mem_cons.mp kept
    obtain ⟨role, tree⟩ := first
    rw [stripForest, if_neg (Bool.eq_false_iff.mp here), ih later, List.map_cons]

/-- A block that is told to lose all its statements gets a `pass` statement. -/
theorem mem_stripForest_of_hollow {role : Role} (isHollow : hollow role = true)
    (unfilled : role ∉ filled)
    (some : ∃ child ∈ forest, child.1 = role ∧ Imports.isFrom module child.2.label = true) :
    (role, pass blank) ∈ stripForest module blank hollow filled forest := by
  induction forest generalizing filled with
  | nil =>
    obtain ⟨child, absent, -⟩ := some
    exact absurd absent List.not_mem_nil
  | cons first rest ih =>
    obtain ⟨other, tree⟩ := first
    obtain ⟨child, member, here, isFrom⟩ := some
    rw [stripForest]
    rcases List.mem_cons.mp member with rfl | beneath
    · obtain rfl : other = role := here
      rw [if_pos isFrom, if_pos (by simp [isHollow, unfilled])]
      exact List.mem_cons_self
    · have later : ∃ child ∈ rest, child.1 = role ∧ Imports.isFrom module child.2.label = true :=
        ⟨child, beneath, here, isFrom⟩
      split
      · split
        · by_cases same : other = role
          · exact same ▸ List.mem_cons_self
          · refine List.mem_cons_of_mem _ (ih (fun inside => ?_) later)
            exact (List.mem_cons.mp inside).elim (fun equal => same equal.symm) unfilled
        · exact ih unfilled later
      · exact List.mem_cons_of_mem _ (ih unfilled later)

end Children

section Nodes

/-- What is left of a node with its children. -/
theorem children_strip_eq (module : String) (blank : α) (tree : Tree α) :
    (strip module blank tree).children =
      stripForest module blank (losesAll module tree.label tree.children) [] tree.children := by
  obtain ⟨tag, label, children⟩ := tree
  rw [strip]
  rfl

/-- **What is left of a tree** are its nodes without the imports, and `pass` statements. -/
theorem mem_strip (member : node ∈ (strip module blank tree).preorder) :
    node = pass blank ∨ ∃ before ∈ tree.preorder, node = strip module blank before := by
  induction tree with
  | node tag label children ih =>
    rcases mem_preorder_iff.mp member with rfl | ⟨child, inside, deeper⟩
    · exact Or.inr ⟨_, self_mem_preorder _, rfl⟩
    · rw [children_strip_eq] at inside
      rcases mem_stripForest inside with same | ⟨before, among, -, rfl⟩
      · rw [same] at deeper
        exact Or.inl (List.mem_singleton.mp deeper)
      · refine (ih before among deeper).imp_right fun ⟨inner, within, same⟩ => ?_
        exact ⟨inner, mem_preorder_node.mpr (Or.inr ⟨before, among, within⟩), same⟩

/-- **Beneath the root there is no import from the module.** -/
theorem isFrom_eq_false_of_mem (root : Imports.isFrom module tree.label = false)
    (member : node ∈ (strip module blank tree).preorder) :
    Imports.isFrom module node.label = false := by
  induction tree with
  | node tag label children ih =>
    rcases mem_preorder_iff.mp member with rfl | ⟨child, inside, deeper⟩
    · rwa [label_strip]
    · rw [children_strip_eq] at inside
      rcases mem_stripForest inside with same | ⟨before, among, kept, rfl⟩
      · rw [same] at deeper
        rw [List.mem_singleton.mp deeper]
        rfl
      · exact ih before among kept deeper

/-- **A node without such imports among its children** keeps them all. -/
theorem children_strip
    (kept : ∀ child ∈ tree.children, Imports.isFrom module child.2.label = false) :
    (strip module blank tree).children =
      tree.children.map fun child => (child.1, strip module blank child.2) := by
  rw [children_strip_eq, stripForest_eq_map kept]

/-- **A block with statements does not become empty**, but that of the module may. -/
theorem exists_in_block {role : Role} (isBlock : role.isBlock = true)
    (inner : tree.label ≠ .module)
    (some : ∃ child ∈ tree.children, child.1 = role ∧ child.2.label.isStatement = true) :
    ∃ child ∈ (strip module blank tree).children, child.1 = role ∧
      child.2.label.isStatement = true := by
  rw [children_strip_eq]
  obtain ⟨statement, member, here, isStatement⟩ := some
  have inBlock : isInBlock role statement = true := by simp [isInBlock, isBlock, here, isStatement]
  by_cases loses : losesAll module tree.label tree.children role = true
  · have all := loses
    rw [losesAll, Bool.and_eq_true, List.all_eq_true] at all
    have isFrom := all.2 statement (List.mem_filter.mpr ⟨member, inBlock⟩)
    exact ⟨_, mem_stripForest_of_hollow loses List.not_mem_nil ⟨statement, member, here, isFrom⟩,
      rfl, rfl⟩
  · -- Some statement of the block is no import, and that one is left.
    obtain ⟨child, among, inBlock', kept⟩ : ∃ child ∈ tree.children,
        isInBlock role child = true ∧ Imports.isFrom module child.2.label = false := by
      by_contra none
      push Not at none
      refine loses ?_
      rw [losesAll, Bool.and_eq_true, bne_iff_ne, List.all_eq_true]
      refine ⟨inner, fun child inside => ?_⟩
      obtain ⟨among, inBlock'⟩ := List.mem_filter.mp inside
      simpa using none child among inBlock'
    simp only [isInBlock, Bool.and_eq_true, decide_eq_true_eq] at inBlock'
    refine ⟨_, mem_stripForest_of_mem among kept, inBlock'.1.2, ?_⟩
    rw [label_strip]
    exact inBlock'.2

end Nodes

end Strip

end IfChains
