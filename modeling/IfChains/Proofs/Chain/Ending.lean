/-
**Where a chain ends while others are expanded.**

Putting something in the place of the end of a chain is a change of trees that keeps labels and
roles everywhere else. The other chains are therefore read as before, and the call that ends a chain
is the same one until that chain is expanded.

* `graft_fill`: a tree in the place of the node of a given number;
* `exists_of_mem_graft`: a node of the changed tree is one of the new part, or comes from a node of
  the tree;
* `Reduces.endsAt`: a chain that is still there ended at the same node before.
-/

import IfChains.Proofs.Chain.Reduction

namespace IfChains

open IfChains.Tree

/-- The chain of a head ends at the node of a given number. -/
def Tree.EndsAt (tree : NumberedTree) (head place : NodeId) : Prop :=
  ∃ node ∈ tree.preorder, node.tag = place ∧ (Chain.ofTree? node).map Chain.head = some head

namespace NumberedTree

section Grafting

mutual

/-- The tree with another one in the place of the node of a given number, if a chain ends there. -/
def graft (place : NodeId) (scion : NumberedTree) : NumberedTree → NumberedTree
  | .node tag label children =>
    let rebuilt : NumberedTree := .node tag label (graftForest place scion children)
    if tag = place ∧ (Chain.ofTree? rebuilt).isSome then scion else rebuilt

/-- The forest with another tree in the place of the node of a given number. -/
def graftForest (place : NodeId) (scion : NumberedTree) : Forest NodeId → Forest NodeId
  | [] => []
  | (role, tree) :: rest => (role, graft place scion tree) :: graftForest place scion rest

end

variable {place : NodeId} {scion : NumberedTree}

theorem graftForest_eq (forest : Forest NodeId) :
    graftForest place scion forest = forest.map fun child => (child.1, graft place scion child.2) := by
  induction forest with
  | nil => rfl
  | cons child rest ih =>
    obtain ⟨role, tree⟩ := child
    rw [graftForest, ih, List.map_cons]

/-- A node is changed after its children. -/
theorem graft_eq (tree : NumberedTree) : graft place scion tree =
    if tree.tag = place ∧ (Chain.ofTree? (Chain.rebuilt id (graft place scion) tree)).isSome
    then scion else Chain.rebuilt id (graft place scion) tree := by
  obtain ⟨tag, label, children⟩ := tree
  rw [graft, graftForest_eq]
  rfl

/-- Every other node is kept, with its children changed. -/
theorem graft_other {tree : NumberedTree} (other : tree.tag ≠ place) :
    graft place scion tree = Chain.rebuilt id (graft place scion) tree := by
  rw [graft_eq, if_neg fun both => other both.1]

/-- Children without the node that is looked for stay as they are. -/
theorem map_graft_eq {forest : Forest NodeId}
    (same : ∀ child ∈ forest, graft place scion child.2 = child.2) :
    forest.map (fun child => (child.1, graft place scion child.2)) = forest := by
  refine (List.map_congr_left fun child member => ?_).trans (List.map_id forest)
  rw [same child member]
  rfl

/-- A tree without the node that is looked for stays as it is. -/
theorem graft_eq_self {tree : NumberedTree} (absent : place ∉ tree.tags) :
    graft place scion tree = tree := by
  induction tree using Tree.induction with
  | node tag label children ih =>
    have other : (Tree.node tag label children).tag ≠ place := by
      rintro rfl
      exact absent (tag_mem_tags _)
    rw [graft_other other, Chain.rebuilt, map_graft_eq]
    · rfl
    · exact fun child member => ih child member fun inside =>
        absent (mem_tags_of_mem (child_mem_preorder member) inside)

/-- Around a frame without the node that is looked for, only the hole changes. -/
theorem graft_frame {frame : Frame NodeId} (absent : place ∉ frame.tags) (inside : NumberedTree) :
    graft place scion (frame.fill inside) = frame.fill (graft place scion inside) := by
  have sibling : ∀ {forest : Forest NodeId}, place ∉ tagsIn forest →
      forest.map (fun child => (child.1, graft place scion child.2)) = forest := fun outside =>
    map_graft_eq fun child member => graft_eq_self fun deeper =>
      outside (mem_tagsIn.mpr ⟨child, member, deeper⟩)
  obtain ⟨tag, label, before, role, after⟩ := frame
  obtain ⟨other, outside⟩ := not_or.mp (List.mem_cons.not.mp absent)
  obtain ⟨outsideBefore, outsideAfter⟩ := not_or.mp (List.mem_append.not.mp outside)
  have different : (Frame.fill ⟨tag, label, before, role, after⟩ inside).tag ≠ place :=
    fun same => other same.symm
  rw [graft_other different, Frame.fill, Chain.rebuilt, List.map_append, List.map_cons,
    sibling outsideBefore, sibling outsideAfter]
  rfl

/-- **A tree in the place of a node in its context.** -/
theorem graft_fill {context : Context NodeId} {inside : NumberedTree}
    (absent : place ∉ Context.tags context) : graft place scion (Context.fill context inside) =
      Context.fill context (graft place scion inside) := by
  induction context generalizing inside with
  | nil => rfl
  | cons frame outer ih =>
    obtain ⟨here, further⟩ := not_or.mp (List.mem_append.not.mp absent)
    rw [fill_cons, ih further, graft_frame here, fill_cons]

/-- **A node of the changed tree** is one of the new part, or it comes from a node of the tree. -/
theorem exists_of_mem_graft {tree node : NumberedTree}
    (member : node ∈ (graft place scion tree).preorder) : node ∈ scion.preorder ∨
      ∃ first ∈ tree.preorder, node = Chain.rebuilt id (graft place scion) first := by
  induction tree using Tree.induction with
  | node tag label children ih =>
    rw [graft_eq] at member
    split at member
    · exact Or.inl member
    · rcases mem_preorder_iff.mp member with rfl | ⟨child, inside, beneath⟩
      · exact Or.inr ⟨_, self_mem_preorder _, rfl⟩
      · obtain ⟨child', inside', rfl⟩ := List.mem_map.mp inside
        refine (ih child' inside' beneath).imp_right ?_
        rintro ⟨first, among, same⟩
        exact ⟨first, mem_preorder_trans among (child_mem_preorder inside'), same⟩

/-- The change keeps labels and roles, if the new part is no part of a chain. -/
theorem rebuilds_graft (label : scion.label = .ifExp) : Chain.Rebuilds id (graft place scion) := by
  intro tree
  rw [graft_eq]
  split
  · rename_i both
    refine Or.inr ⟨Option.isSome_iff_exists.mp both.2, ?_⟩
    obtain ⟨tag, label', children⟩ := scion
    obtain rfl : label' = .ifExp := label
    exact ⟨rfl, rfl, rfl⟩
  · exact Or.inl rfl

end Grafting

section Ending

variable {listed : List NodeId} {before after : NumberedTree} {head place : NodeId}

/-- An expansion puts the conditional expression of a chain in the place of its end. -/
theorem Expansion.graft_eq {context : Context NodeId} {ended expr : NumberedTree}
    {chain : Chain NodeId NumberedTree} (expansion : Expansion listed context ended expr chain) :
    graft ended.tag expr (Context.fill context ended) = Context.fill context expr := by
  have distinct := nodup_tags_fill.mp expansion.distinct
  rw [graft_fill fun around => distinct.2.2 around (tag_mem_tags ended)]
  congr 1
  have children : Chain.rebuilt id (graft ended.tag expr) ended = ended := by
    have own := distinct.2.1
    obtain ⟨tag, label, children⟩ := ended
    rw [tags_node, List.nodup_cons] at own
    rw [Chain.rebuilt, map_graft_eq]
    · rfl
    · exact fun child member => graft_eq_self fun inside =>
        own.1 (mem_tagsIn.mpr ⟨child, member, inside⟩)
  rw [NumberedTree.graft_eq, children, expansion.reading, if_pos ⟨rfl, rfl⟩]

/-- A listed chain that is still there after an expansion ended at the same node before. -/
theorem Expands.endsAt (step : Expands listed before after) (member : head ∈ listed)
    (ends : after.EndsAt head place) : before.EndsAt head place := by
  obtain ⟨context, ended, expr, chain, expansion, rfl, rfl⟩ := step
  obtain ⟨node, among, rfl, reading⟩ := ends
  rw [← expansion.graft_eq] at among
  rcases exists_of_mem_graft among with inside | ⟨first, before, rfl⟩
  · obtain ⟨chain', ended', rfl⟩ := Option.map_eq_some_iff.mp reading
    exact absurd member (expansion.fresh _ (mem_tags_of_mem inside
      (Chain.ofTree?_within ended').head))
  · refine ⟨first, before, ?_, ?_⟩
    · obtain ⟨tag, label, children⟩ := first
      rfl
    · rw [(rebuilds_graft expansion.label_expr).ofTree?_image, Option.map_map] at reading
      exact reading

/-- **A listed chain that is still there** ended at the same node before any number of expansions. -/
theorem Reduces.endsAt (steps : Reduces listed before after) (member : head ∈ listed)
    (ends : after.EndsAt head place) : before.EndsAt head place := by
  induction steps with
  | refl => exact ends
  | tail _ step ih => exact ih (step.endsAt member ends)

end Ending

end NumberedTree

end IfChains
