/-
**The tree that a walk works on.**

A state is sound for a tree if its table reads as the tree and records its parents, the tree is
that of a program, and the listed names in it are those whose chains are not expanded yet. From
state to state a walk leads from tree to tree by expansions of chains.

* `Sound.grown`: making nodes keeps a state sound;
* `Leads.trans`: what holds from state to state holds over the whole walk;
* `Blames.before`: a listed name that opens no chain did not open one before.
-/

import IfChains.Proofs.Chain.Outcome
import IfChains.Proofs.Chain.Reduction
import IfChains.Proofs.LiveTree.Replacement

namespace IfChains

open IfChains.Tree

namespace NumberedTree

variable {listed : List NodeId} {state state' state'' : WalkState}
  {tree tree' tree'' : NumberedTree}

/-- A state whose table is that of a program's tree, in which the listed names whose chains are not
expanded yet remain. -/
structure Sound (listed : List NodeId) (state : WalkState) (tree : NumberedTree) : Prop where
  reads : state.live.Reads tree
  linked : state.live.Linked tree
  rootless : state.live.parent? tree.tag = none
  distinct : tree.tags.Nodup
  root : tree.label = .module
  conforming : tree.Conforming
  names : ∀ id ∈ listed, ∃ name usage, state.live.label id = .name name usage
  pending : ∀ id ∈ listed, (id ∈ tree.tags ↔ id ∉ state.processed)
  processed : state.processed.Nodup ∧ state.processed ⊆ listed

section Sound

/-- A listed number is that of a node. -/
theorem Sound.lt_size (sound : Sound listed state tree) {id : NodeId} (member : id ∈ listed) :
    id < state.live.size := by
  obtain ⟨name, usage, label⟩ := sound.names id member
  rw [LiveTree.label_eq] at label
  cases held : state.live.content? id with
  | none => exact nomatch held ▸ label
  | some content => exact LiveTree.lt_size_of_content held

/-- A state stays sound when nodes are made. -/
theorem Sound.grown (sound : Sound listed state tree)
    (grown : LiveTree.Grown state.live state'.live) (same : state'.processed = state.processed) :
    Sound listed state' tree := by
  refine ⟨sound.reads.grown grown, sound.linked.congr fun id _ => grown.parent id,
    (grown.parent tree.tag).trans sound.rootless, sound.distinct, sound.root, sound.conforming,
    fun id member => ?_, fun id member => ?_, ?_⟩
  · rw [LiveTree.label_eq, grown.content id (sound.lt_size member), ← LiveTree.label_eq]
    exact sound.names id member
  · rw [same]
    exact sound.pending id member
  · rw [same]
    exact sound.processed

/-- A listed number in a part of the tree is that of a name in a context. -/
theorem Sound.exists_fill (sound : Sound listed state tree) {part : NumberedTree}
    (among : part ∈ tree.preorder) {id : NodeId} (member : id ∈ listed) (inside : id ∈ part.tags) :
    ∃ name usage context, part = Context.fill context (.node id (.name name usage) []) := by
  obtain ⟨node, beneath, rfl⟩ := exists_of_mem_tags inside
  obtain ⟨context, same⟩ := Tree.exists_fill beneath
  obtain ⟨name, usage, label⟩ := sound.names node.tag member
  have beneathTree := mem_preorder_trans beneath among
  have conforms := sound.conforming node beneathTree
  rw [(sound.reads.of_mem beneathTree).label] at label
  obtain ⟨tag, label', children⟩ := node
  obtain rfl : label' = .name name usage := label
  rw [conforms.children_eq_nil rfl] at same
  exact ⟨name, usage, context, same⟩

end Sound

/-- What a walk does between two states: it expands chains of the tree, and leaves alone what is not
in the tree. -/
structure Leads (listed : List NodeId) (state : WalkState) (tree : NumberedTree)
    (state' : WalkState) (tree' : NumberedTree) : Prop where
  reduces : Reduces listed tree tree'
  grows : state.live.size ≤ state'.live.size
  kept : ∀ id < state.live.size, id ∉ tree.tags → state'.live.content? id = state.live.content? id
  labels : ∀ id < state.live.size, state'.live.label id = state.live.label id
  tags : ∀ id ∈ tree'.tags, id ∈ tree.tags ∨ state.live.size ≤ id

section Leads

theorem Leads.refl (listed : List NodeId) (state : WalkState) (tree : NumberedTree) :
    Leads listed state tree state tree :=
  ⟨.refl, Nat.le_refl _, fun _ _ _ => rfl, fun _ _ => rfl, fun _ => Or.inl⟩

/-- **What a walk does in two parts.** -/
theorem Leads.trans (first : Leads listed state tree state' tree')
    (second : Leads listed state' tree' state'' tree'') :
    Leads listed state tree state'' tree'' := by
  have old : ∀ id < state.live.size, id < state'.live.size := fun id known =>
    Nat.lt_of_lt_of_le known first.grows
  have outside : ∀ id < state.live.size, id ∉ tree.tags → id ∉ tree'.tags := fun id known absent =>
    fun member => (first.tags id member).elim absent fun fresh => Nat.not_lt_of_le fresh known
  refine ⟨Relation.ReflTransGen.trans first.reduces second.reduces,
    Nat.le_trans first.grows second.grows, fun id known absent => ?_, fun id known => ?_,
    fun id member => ?_⟩
  · exact (second.kept id (old id known) (outside id known absent)).trans
      (first.kept id known absent)
  · exact (second.labels id (old id known)).trans (first.labels id known)
  · rcases second.tags id member with inside | fresh
    · exact first.tags id inside
    · exact Or.inr (Nat.le_trans first.grows fresh)

/-- Making nodes leaves the tree alone. -/
theorem leads_grown (tree : NumberedTree) (grown : LiveTree.Grown state.live state'.live) :
    Leads listed state tree state' tree := by
  refine ⟨.refl, grown.size, fun id known _ => grown.content id known, fun id known => ?_,
    fun _ => Or.inl⟩
  rw [LiveTree.label_eq, grown.content id known, ← LiveTree.label_eq]

/-- No listed number comes into a part of the tree whose surroundings stay. -/
theorem Leads.mem_before {context : Context NodeId} {inside inside' : NumberedTree}
    (leads : Leads listed state (Context.fill context inside) state' (Context.fill context inside'))
    (distinct : (Context.fill context inside').tags.Nodup) {id : NodeId} (member : id ∈ listed)
    (here : id ∈ inside'.tags) : id ∈ inside.tags := by
  have before := leads.reduces.mem_before member (mem_tags_fill.mpr (Or.inr here))
  refine (mem_tags_fill.mp before).resolve_left fun around => ?_
  exact (nodup_tags_fill.mp distinct).2.2 around here

end Leads

/-- A walk from a sound state leaves a tree behind to which it has led. -/
def Leaves (listed : List NodeId) (state : WalkState) (tree : NumberedTree) (after : WalkState) :
    Prop :=
  ∃ left, Sound listed after left ∧ Leads listed state tree after left

theorem Sound.leaves (sound : Sound listed state tree) : Leaves listed state tree state :=
  ⟨tree, sound, .refl ..⟩

theorem Leaves.before (leaves : Leaves listed state' tree' state'')
    (leads : Leads listed state tree state' tree') : Leaves listed state tree state'' := by
  obtain ⟨left, sound, later⟩ := leaves
  exact ⟨left, sound, leads.trans later⟩

/-- How a walk stops: some chain is malformed, some listed name in the tree opens no chain, and the
tree that is left behind is one to which the walk has led. -/
structure Blames (listed : List NodeId) (state : WalkState) (tree : NumberedTree)
    (fault : WalkFault) (after : WalkState) : Prop where
  shape : ∃ shape location, fault = .shape shape location
  malformed : ∃ id ∈ listed, id ∈ tree.tags ∧ tree.opensChain id = false
  leaves : Leaves listed state tree after

/-- **A listed name that opens no chain did not open one before.** -/
theorem Blames.before {fault : WalkFault} (blames : Blames listed state' tree' fault state'')
    (leads : Leads listed state tree state' tree') : Blames listed state tree fault state'' := by
  obtain ⟨shape, ⟨id, member, inside, malformed⟩, leaves⟩ := blames
  refine ⟨shape, ⟨id, member, leads.reduces.mem_before member inside, ?_⟩, leaves.before leads⟩
  rw [leads.reduces.opens_kept member inside]
  exact malformed

end NumberedTree

end IfChains
