/-
**The table of a tree.**

* `plant_spec`: making the nodes of a tree makes them anew, each once;
* `exists_ofTree`: the table of a tree reads as a tree of the same shape, with numbers that differ
  and with its recorded parents, and the root has none; it holds nothing else.
-/

import IfChains.Proofs.LiveTree.Parents

namespace IfChains

open IfChains.Tree

namespace LiveTree

variable {live live' live'' : LiveTree}

/-- A table that has grown by the nodes of some trees. -/
structure Planted (live live' : LiveTree) (trees : List NumberedTree) : Prop where
  grown : Grown live live'
  reads : ∀ tree ∈ trees, live'.Reads tree
  distinct : (trees.flatMap Tree.tags).Nodup
  fresh : ∀ id ∈ trees.flatMap Tree.tags, live.size ≤ id
  covers : ∀ id, live.size ≤ id → id < live'.size → id ∈ trees.flatMap Tree.tags

theorem Planted.refl (live : LiveTree) : Planted live live [] := by
  refine ⟨.refl live, ?_, List.nodup_nil, ?_, ?_⟩
  · exact fun tree member => absurd member List.not_mem_nil
  · exact fun id member => absurd member List.not_mem_nil
  · exact fun id fresh known => absurd (Nat.lt_of_lt_of_le known fresh) (Nat.lt_irrefl _)

/-- Trees that are made one after the other. -/
theorem Planted.append {first second : List NumberedTree} (one : Planted live live' first)
    (two : Planted live' live'' second) : Planted live live'' (first ++ second) := by
  have below : ∀ id ∈ first.flatMap Tree.tags, id < live'.size := by
    intro id member
    obtain ⟨tree, among, inside⟩ := List.mem_flatMap.mp member
    exact (one.reads tree among).lt_size inside
  refine ⟨one.grown.trans two.grown, fun tree member => ?_, ?_, fun id member => ?_,
    fun id fresh known => ?_⟩
  · rcases List.mem_append.mp member with sooner | later
    · exact (one.reads tree sooner).grown two.grown
    · exact two.reads tree later
  · rw [List.flatMap_append, List.nodup_append']
    refine ⟨one.distinct, two.distinct, fun id sooner later => ?_⟩
    exact Nat.lt_irrefl id (Nat.lt_of_lt_of_le (below id sooner) (two.fresh id later))
  · rw [List.flatMap_append, List.mem_append] at member
    rcases member with sooner | later
    · exact one.fresh id sooner
    · exact Nat.le_trans one.grown.size (two.fresh id later)
  · rw [List.flatMap_append, List.mem_append]
    rcases Nat.lt_or_ge id live'.size with sooner | later
    · exact Or.inl (one.covers id fresh sooner)
    · exact Or.inr (two.covers id later known)

/-- The node above trees that were made. -/
theorem Planted.node {children : Forest NodeId}
    (planted : Planted live live' (children.map Prod.snd))
    (label : Label) (position : Option Position) :
    Planted live (live'.push label position (slotsOf children)).2
      [.node live'.size label children] := by
  have beneath : ∀ child ∈ children, live'.Reads child.2 := fun child member =>
    planted.reads child.2 (List.mem_map_of_mem member)
  have flat : (children.map Prod.snd).flatMap Tree.tags = tagsIn children :=
    List.flatMap_map ..
  have distinct := planted.distinct
  have fresh := planted.fresh
  have covers := planted.covers
  rw [flat] at distinct fresh covers
  refine ⟨planted.grown.trans (grown_push ..), fun tree member => ?_, ?_, fun id member => ?_,
    fun id old known => ?_⟩
  · rw [List.mem_singleton.mp member]
    exact reads_push beneath
  · rw [List.flatMap_singleton, tags_node, List.nodup_cons]
    refine ⟨fun inside => ?_, distinct⟩
    obtain ⟨child, member, deeper⟩ := mem_tagsIn.mp inside
    exact Nat.lt_irrefl _ ((beneath child member).lt_size deeper)
  · rw [List.flatMap_singleton, tags_node, List.mem_cons] at member
    rcases member with rfl | inside
    · exact planted.grown.size
    · exact fresh id inside
  · rw [List.flatMap_singleton, tags_node, List.mem_cons]
    rw [size_push] at known
    exact (Nat.lt_succ_iff_lt_or_eq.mp known).symm.imp (fun same => same) (covers id old)

mutual

/-- **Making the nodes of a tree.** -/
theorem plant_spec (live : LiveTree) : (tree : SourceTree) →
    ∃ numbered : NumberedTree, numbered.tag = (live.plant tree).1 ∧ numbered.shape = tree.shape ∧
      Planted live (live.plant tree).2 [numbered]
  | .node position label children => by
    obtain ⟨forest, slots, shapes, planted⟩ := plantForest_spec live children
    refine ⟨.node (live.plantForest children).2.size label forest, rfl, ?_, ?_⟩
    · rw [shape, shape, Tree.map, Tree.map, shapes]
    · have grown := planted.node label position
      rwa [slots] at grown

/-- Making the nodes of a forest. -/
theorem plantForest_spec (live : LiveTree) : (forest : Forest (Option Position)) →
    ∃ numbered : Forest NodeId, slotsOf numbered = (live.plantForest forest).1 ∧
      mapForest (fun _ => ()) numbered = mapForest (fun _ => ()) forest ∧
      Planted live (live.plantForest forest).2 (numbered.map Prod.snd)
  | [] => ⟨[], rfl, rfl, .refl live⟩
  | (role, tree) :: rest => by
    obtain ⟨first, tag, same, one⟩ := plant_spec live tree
    obtain ⟨others, slots, shapes, two⟩ := plantForest_spec (live.plant tree).2 rest
    refine ⟨(role, first) :: others, ?_, ?_, one.append two⟩
    · rw [slotsOf, List.map_cons, tag, plantForest]
      exact congrArg _ slots
    · rw [mapForest, mapForest, shapes]
      exact congrArg (fun head => (role, head) :: _) same

end

/-- **The table of a tree** reads as a tree of its shape and records its parents. -/
theorem exists_ofTree (tree : SourceTree) : ∃ numbered : NumberedTree,
    numbered.tag = (ofTree tree).1 ∧ numbered.shape = tree.shape ∧ numbered.tags.Nodup ∧
      (ofTree tree).2.Reads numbered ∧ (ofTree tree).2.Linked numbered ∧
      (ofTree tree).2.parent? numbered.tag = none ∧
      ∀ id < (ofTree tree).2.size, id ∈ numbered.tags := by
  obtain ⟨numbered, tag, same, planted⟩ := plant_spec empty tree
  have reads := planted.reads numbered (List.mem_singleton_self _)
  have distinct := planted.distinct
  have covers := planted.covers
  rw [List.flatMap_singleton] at distinct covers
  obtain ⟨recorded, linked⟩ := reads.index distinct (reads.size_le distinct)
  have result : (ofTree tree).2 =
      (empty.plant tree).2.index (empty.plant tree).2.size numbered.tag := by
    rw [tag]
    rfl
  rw [← result] at recorded linked
  refine ⟨numbered, tag, same, distinct, recorded.reads reads, linked, ?_, fun id known => ?_⟩
  · rw [recorded.parent, planted.grown.parent]
    · rfl
    · obtain ⟨root, label, children⟩ := numbered
      rw [tags_node, List.nodup_cons] at distinct
      exact distinct.1
  · exact covers id (Nat.zero_le id) (recorded.size ▸ known)

end LiveTree

end IfChains
