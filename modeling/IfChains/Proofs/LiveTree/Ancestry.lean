/-
**Climbing along recorded parents.**

The recorded parents of a table lead from node to node. Where climbing ends from every node, nodes
that keep to their places make up trees.

* `Grounded.eq_of_siblings`: climbing from a node one comes to at most one child of another node;
* `climbs_of_contains`: a node that a table says to be beneath another one climbs to it;
* `Kept.exists_tree`: beneath a node that keeps to its place the table reads as a tree;
* `whole_ofTree`: in the table of a tree climbing ends, and all nodes keep to their places.
-/

import IfChains.Proofs.LiveTree.Planting
import Mathlib.Data.Set.Finite.Basic
import Mathlib.Order.CompletePartialOrder
import Mathlib.Order.WellFoundedSet

namespace IfChains

open IfChains.Tree

namespace LiveTree

variable {live live' : LiveTree} {id above first second parent : NodeId}

/-- The recorded parent of a node is another one. -/
def Rises (live : LiveTree) (id above : NodeId) : Prop :=
  live.parent? id = some above

/-- Climbing from a node one comes to another one. -/
abbrev Climbs (live : LiveTree) : NodeId → NodeId → Prop :=
  Relation.ReflTransGen live.Rises

/-- Climbing ends, wherever it begins. -/
def Grounded (live : LiveTree) : Prop :=
  ∀ id, Acc (fun above id => live.Rises id above) id

section Climbing

/-- A number with a recorded parent is that of a node. -/
theorem Rises.lt_size (rises : live.Rises id above) : id < live.size := by
  obtain ⟨entry, found, -⟩ := Option.bind_eq_some_iff.mp rises
  exact (Array.getElem?_eq_some_iff.mp found).1

theorem Rises.unique (one : live.Rises id first) (two : live.Rises id second) : first = second :=
  Option.some.inj (one.symm.trans two)

/-- Climbing to another node one comes by the parent. -/
theorem Climbs.of_rises (climbs : live.Climbs id above) (other : id ≠ above)
    (rises : live.Rises id parent) : live.Climbs parent above := by
  rcases Relation.ReflTransGen.cases_head climbs with same | ⟨next, step, rest⟩
  · exact absurd same other
  · exact step.unique rises ▸ rest

/-- Of two nodes above a node one is above the other. -/
theorem Climbs.comparable (one : live.Climbs id first) (two : live.Climbs id second) :
    live.Climbs first second ∨ live.Climbs second first :=
  Relation.ReflTransGen.total_of_right_unique (fun _ _ _ => Rises.unique) one two

/-- A node with a parent is not above it. -/
theorem Grounded.not_climbs (grounded : live.Grounded) (rises : live.Rises id parent) :
    ¬live.Climbs parent id := by
  induction grounded id generalizing parent with
  | intro id _ ih =>
    intro climbs
    rcases Relation.ReflTransGen.cases_head climbs with rfl | ⟨next, step, rest⟩
    · exact ih parent rises rises .refl
    · exact ih parent rises step (rest.tail rises)

/-- **Climbing from a node one comes to at most one child of another node.** -/
theorem Grounded.eq_of_siblings (grounded : live.Grounded) (one : live.Climbs id first)
    (two : live.Climbs id second) (rises : live.Rises first parent)
    (rises' : live.Rises second parent) : first = second := by
  by_contra other
  rcases one.comparable two with climbs | climbs
  · exact grounded.not_climbs rises' (climbs.of_rises other rises)
  · exact grounded.not_climbs rises (climbs.of_rises (Ne.symm other) rises')

/-- **Climbing comes to a node without a parent.** -/
theorem Grounded.exists_top (grounded : live.Grounded) (id : NodeId) :
    ∃ top, live.Climbs id top ∧ live.parent? top = none := by
  induction grounded id with
  | intro id _ ih =>
    cases parent : live.parent? id with
    | none => exact ⟨id, .refl, parent⟩
    | some above =>
      obtain ⟨top, climbs, none⟩ := ih above parent
      exact ⟨top, climbs.head parent, none⟩

/-- Some steps along recorded parents are a climb. -/
theorem climbs_of_reaches {steps : Nat} (reaches : live.reaches above steps id = true) :
    live.Climbs id above := by
  induction steps generalizing id with
  | zero => exact absurd reaches Bool.false_ne_true
  | succ steps ih =>
    rw [LiveTree.reaches, Bool.or_eq_true, beq_iff_eq] at reaches
    rcases reaches with rfl | further
    · exact .refl
    · cases parent : live.parent? id with
      | none =>
        rw [parent] at further
        exact absurd further Bool.false_ne_true
      | some next =>
        rw [parent] at further
        exact (ih further).head parent

/-- **A node that a table says to be beneath another one** climbs to it. -/
theorem climbs_of_contains (contains : live.contains above id = true) : live.Climbs id above :=
  climbs_of_reaches contains

/-- Climbing from a node of a tree ends if it does from the root. -/
theorem Linked.acc {tree : NumberedTree} (linked : live.Linked tree)
    (root : Acc (fun above id => live.Rises id above) tree.tag) {id : NodeId}
    (member : id ∈ tree.tags) : Acc (fun above id => live.Rises id above) id := by
  induction tree using Tree.induction with
  | node tag label children ih =>
    rw [tags_node, List.mem_cons] at member
    rcases member with rfl | beneath
    · exact root
    · obtain ⟨child, inside, deeper⟩ := mem_tagsIn.mp beneath
      obtain ⟨parent, linkedChild⟩ := linked_node.mp linked child inside
      refine ih child inside linkedChild ⟨_, fun above rises => ?_⟩ deeper
      exact Rises.unique parent rises ▸ root

/-- A node of a tree other than the root is the child of another one. -/
theorem exists_parent {tree : NumberedTree} {id : NodeId} (member : id ∈ tree.tags) :
    id = tree.tag ∨ ∃ node ∈ tree.preorder, ∃ child ∈ node.children, child.2.tag = id := by
  induction tree using Tree.induction with
  | node tag label children ih =>
    rw [tags_node, List.mem_cons] at member
    refine member.imp (fun same => same) fun beneath => ?_
    obtain ⟨child, inside, deeper⟩ := mem_tagsIn.mp beneath
    rcases ih child inside deeper with rfl | ⟨node, among, other, below, same⟩
    · exact ⟨_, self_mem_preorder _, child, inside, rfl⟩
    · exact ⟨node, mem_preorder_trans among (child_mem_preorder inside), other, below, same⟩

end Climbing

/-- Some nodes keep to their places: each of them has different children, which are among them and
have it for their recorded parent. -/
structure Kept (live : LiveTree) (kept : Set NodeId) : Prop where
  known : ∀ id ∈ kept, id < live.size
  child : ∀ id ∈ kept, ∀ slot ∈ live.slots id, slot.2 ∈ kept ∧ live.Rises slot.2 id
  distinct : ∀ id ∈ kept, ((live.slots id).map Prod.snd).Nodup

section Keeping

variable {kept : Set NodeId}

/-- Children are read if each of them is. -/
theorem exists_forest {holds : NumberedTree → Prop} {slots : List (Role × NodeId)}
    (each : ∀ slot ∈ slots, ∃ tree : NumberedTree, tree.tag = slot.2 ∧ holds tree) :
    ∃ forest : Forest NodeId, slotsOf forest = slots ∧ ∀ child ∈ forest, holds child.2 := by
  induction slots with
  | nil => exact ⟨[], rfl, fun child absent => absurd absent List.not_mem_nil⟩
  | cons slot rest ih =>
    obtain ⟨tree, tag, here⟩ := each slot List.mem_cons_self
    obtain ⟨forest, same, there⟩ := ih fun slot member => each slot (List.mem_cons_of_mem _ member)
    refine ⟨(slot.1, tree) :: forest, ?_, List.forall_mem_cons.mpr ⟨here, there⟩⟩
    rw [slotsOf, List.map_cons, tag]
    exact congrArg _ same

/-- A tree beneath a node that keeps to its place. -/
structure Stands (live : LiveTree) (kept : Set NodeId) (tree : NumberedTree) : Prop where
  reads : live.Reads tree
  linked : live.Linked tree
  distinct : tree.tags.Nodup
  kept : ∀ id ∈ tree.tags, id ∈ kept
  climbs : ∀ id ∈ tree.tags, live.Climbs id tree.tag

/-- A node that keeps to its place stands above its children if they do. -/
theorem Kept.stands_node (keep : live.Kept kept) (grounded : live.Grounded) (member : id ∈ kept)
    {forest : Forest NodeId} (slots : slotsOf forest = live.slots id)
    (stands : ∀ child ∈ forest, live.Stands kept child.2) :
    live.Stands kept (.node id (live.label id) forest) := by
  have rises : ∀ child ∈ forest, live.Rises child.2.tag id := by
    intro child inside
    refine (keep.child id member (child.1, child.2.tag) ?_).2
    rw [← slots]
    exact List.mem_map_of_mem inside
  have beneath : ∀ other ∈ tagsIn forest, ∃ child ∈ forest, live.Climbs other child.2.tag := by
    intro other inside
    obtain ⟨child, among, deeper⟩ := mem_tagsIn.mp inside
    exact ⟨child, among, (stands child among).climbs other deeper⟩
  have apart : forest.Pairwise fun one two => one.2.tags.Disjoint two.2.tags := by
    have differ := keep.distinct id member
    rw [← slots, slotsOf, List.map_map, List.Nodup, List.pairwise_map] at differ
    refine differ.imp_of_mem fun {one two} first second other id inOne inTwo => other ?_
    exact grounded.eq_of_siblings ((stands one first).climbs id inOne)
      ((stands two second).climbs id inTwo) (rises one first) (rises two second)
  refine ⟨reads_node.mpr ⟨?_, fun child inside => (stands child inside).reads⟩,
    linked_node.mpr fun child inside => ⟨rises child inside, (stands child inside).linked⟩, ?_,
    fun other inside => ?_, fun other inside => ?_⟩
  · rw [slots]
    exact content?_of_lt (keep.known id member)
  · rw [tags_node, List.nodup_cons]
    refine ⟨fun inside => ?_, List.nodup_flatMap.mpr ⟨fun child among =>
      (stands child among).distinct, apart⟩⟩
    obtain ⟨child, among, climbs⟩ := beneath id inside
    exact grounded.not_climbs (rises child among) climbs
  · rw [tags_node, List.mem_cons] at inside
    rcases inside with rfl | deeper
    · exact member
    · obtain ⟨child, among, below⟩ := mem_tagsIn.mp deeper
      exact (stands child among).kept other below
  · rw [tags_node, List.mem_cons] at inside
    rcases inside with rfl | deeper
    · exact .refl
    · obtain ⟨child, among, climbs⟩ := beneath other deeper
      exact climbs.tail (rises child among)

/-- **Beneath a node that keeps to its place the table reads as a tree.** -/
theorem Kept.exists_tree (keep : live.Kept kept) (grounded : live.Grounded) (member : id ∈ kept) :
    ∃ tree : NumberedTree, tree.tag = id ∧ live.Stands kept tree := by
  -- There are finitely many nodes, so that going down from node to child ends as well.
  have order : IsStrictOrder NodeId (Relation.TransGen live.Rises) := by
    refine { irrefl := fun id climbs => ?_, trans := fun _ _ _ => Relation.TransGen.trans }
    obtain ⟨above, step, rest⟩ := Relation.TransGen.head'_iff.mp climbs
    exact grounded.not_climbs step rest
  have finite : kept.Finite := (Set.finite_Iio live.size).subset keep.known
  have descent : kept.WellFoundedOn (Relation.TransGen live.Rises) := finite.wellFoundedOn
  refine @Set.WellFoundedOn.induction _ _ _ _ descent member
    (fun id => ∃ tree : NumberedTree, tree.tag = id ∧ live.Stands kept tree) fun id member ih => ?_
  obtain ⟨forest, slots, stands⟩ := @exists_forest (live.Stands kept) (live.slots id)
    fun slot inside => by
      obtain ⟨among, rises⟩ := keep.child id member slot inside
      exact ih slot.2 among (.single rises)
  exact ⟨_, rfl, keep.stands_node grounded member slots stands⟩

end Keeping

section Whole

/-- The children of a node have different numbers if all nodes beneath it have. -/
theorem nodup_slotsOf {children : Forest NodeId} (distinct : (tagsIn children).Nodup) :
    ((slotsOf children).map Prod.snd).Nodup := by
  rw [slotsOf, List.map_map, List.Nodup, List.pairwise_map]
  refine (List.nodup_flatMap.mp distinct).2.imp fun {one two} apart same => ?_
  have same : one.2.tag = two.2.tag := same
  exact apart (tag_mem_tags one.2) (same ▸ tag_mem_tags two.2)

/-- The nodes of a tree keep to their places. -/
theorem Reads.kept {tree : NumberedTree} (reads : live.Reads tree) (linked : live.Linked tree)
    (distinct : tree.tags.Nodup) : live.Kept {id | id ∈ tree.tags} := by
  refine ⟨fun id member => reads.lt_size member, fun id member slot inside => ?_,
    fun id member => ?_⟩
  · obtain ⟨node, among, rfl⟩ := exists_of_mem_tags member
    rw [(reads.of_mem among).slots] at inside
    obtain ⟨child, below, rfl⟩ := List.mem_map.mp inside
    refine ⟨mem_tags_of_mem among (mem_tags_of_mem (child_mem_preorder below) (tag_mem_tags _)), ?_⟩
    exact linked node among child below
  · obtain ⟨node, among, rfl⟩ := exists_of_mem_tags member
    rw [(reads.of_mem among).slots]
    have inner := distinct.sublist (tags_sublist among)
    obtain ⟨tag, label, children⟩ := node
    exact nodup_slotsOf (List.nodup_cons.mp (tags_node tag label children ▸ inner)).2

/-- All nodes of a table keep to their places, beneath other ones, and climbing ends. -/
structure Whole (live : LiveTree) : Prop where
  kept : live.Kept {id | id < live.size}
  beneath : ∀ {id above : NodeId}, live.Rises id above → above < live.size
  grounded : live.Grounded

/-- **The table of a tree** is whole, and its root has no parent. -/
theorem whole_ofTree (tree : SourceTree) : (ofTree tree).2.Whole ∧
    (ofTree tree).1 < (ofTree tree).2.size ∧ (ofTree tree).2.parent? (ofTree tree).1 = none := by
  obtain ⟨numbered, tag, -, distinct, reads, linked, rootless, covers⟩ := exists_ofTree tree
  have nodes : {id | id < (ofTree tree).2.size} = {id | id ∈ numbered.tags} :=
    Set.ext fun id => ⟨covers id, reads.lt_size⟩
  have top : Acc (fun above id => (ofTree tree).2.Rises id above) numbered.tag :=
    ⟨_, fun above rises => absurd (rootless.symm.trans rises) (Option.some_ne_none above).symm⟩
  refine ⟨⟨nodes ▸ reads.kept linked distinct, fun {id above} rises => ?_, fun id => ?_⟩, ?_,
    tag ▸ rootless⟩
  · rcases exists_parent (covers id rises.lt_size) with rfl | ⟨node, among, child, inside, rfl⟩
    · exact absurd (rootless.symm.trans rises) (Option.some_ne_none above).symm
    · rw [rises.unique (linked node among child inside)]
      exact reads.lt_size (mem_tags_of_mem among (tag_mem_tags node))
  · by_cases known : id < (ofTree tree).2.size
    · exact linked.acc top (covers id known)
    · exact ⟨_, fun above rises => absurd rises.lt_size known⟩
  · exact tag ▸ reads.lt_size (tag_mem_tags numbered)

end Whole

end LiveTree

end IfChains
