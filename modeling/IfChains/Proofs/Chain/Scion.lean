/-
**The trees that take the place of chains.**

What a chain has gathered on its way are arguments of its calls and values of branches that had none.
A conditional expression above them is a tree that can be put in the place of the chain.

* `exists_conditional`: making a conditional expression makes nodes that are neither calls nor
  members, and nothing else;
* `graft_collected`: beneath something that was gathered there is a tree;
* `graft_conditional`: and so there is above all that was gathered.
-/

import IfChains.Proofs.Chain.Grafting
import IfChains.Proofs.Chain.Making

namespace IfChains

open IfChains.Tree IfChains.Walk

/-- What is gathered, each changed to something and back. -/
theorem BranchSet.map_map_self {α β : Type} {branches : BranchSet α} {change : α → β}
    {back : β → α} (same : ∀ expr ∈ branches.exprs, back (change expr) = expr) :
    (branches.map change).map back = branches := by
  obtain ⟨consequent, alternate⟩ := branches
  obtain ⟨first, second⟩ := List.forall_mem_append.mp same
  simp only [BranchSet.map, List.map_map, Function.comp_def, List.map_congr_left first,
    List.map_congr_left second, List.map_id']

namespace LiveTree

variable {start live live' : LiveTree} {state : WalkState} {root id position head call : NodeId}
  {home : NodeId → NodeId} {spent roots roots' : Set NodeId} {path path' : List NodeId}
  {tree : NumberedTree} {bound : Nat}

section Making

/-- Making a node that is neither a call nor a member. -/
theorem adds_push {label : Label} {position : Option Position} {slots : List (Role × NodeId)}
    (plain : label ≠ .call ∧ ∀ name usage, label ≠ .member name usage) :
    Adds live (live.push label position slots).2 := by
  refine ⟨grown_push .., fun id outside => ?_⟩
  rcases Nat.lt_or_eq_of_le outside with further | rfl
  · rw [label_of_size_le (by rwa [size_push])]
    simp
  · rw [label_eq, content?_push_new]
    exact plain

/-- A walk returns a node, and has only made nodes that are neither calls nor members. -/
def Synthesizes (walk : Walk NodeId) (state : WalkState) : Prop :=
  ∃ id state', walk.outcome state = (.ok id, state') ∧ Adds state.live state'.live

theorem synthesizes_make {label : Label} (slots : List (Role × NodeId))
    (plain : label ≠ .call ∧ ∀ name usage, label ≠ .member name usage) :
    Synthesizes (make label slots) state :=
  ⟨_, _, rfl, adds_push plain⟩

theorem Synthesizes.bind {walk : Walk NodeId} {next : NodeId → Walk NodeId}
    (first : Synthesizes walk state) (rest : ∀ id state', Synthesizes (next id) state') :
    Synthesizes (walk >>= next) state := by
  obtain ⟨id, state', outcome, adds⟩ := first
  obtain ⟨id', state'', outcome', adds'⟩ := rest id state'
  exact ⟨id', state'', (outcome_bind_ok outcome).trans outcome', adds.trans adds'⟩

theorem synthesizes_branch (exprs : List NodeId) : Synthesizes (Synthesis.branch exprs) state := by
  rcases exprs with _ | ⟨expr, _ | ⟨second, rest⟩⟩
  · exact synthesizes_make _ (by simp)
  · exact ⟨expr, state, rfl, .refl _⟩
  · exact (synthesizes_make _ (by simp)).bind fun _ _ => (synthesizes_make _ (by simp)).bind
      fun _ _ => (synthesizes_make _ (by simp)).bind fun _ _ => synthesizes_make _ (by simp)

/-- **Making a conditional expression** gives a new node. -/
theorem exists_conditional (branches : BranchSet NodeId) (condition : NodeId) : ∃ id state',
    (Synthesis.conditional branches condition).outcome state = (.ok id, state') ∧
      Adds state.live state'.live ∧ state.live.size ≤ id ∧ id < state'.live.size := by
  obtain ⟨consequent, state₁, first, adds₁⟩ := @synthesizes_branch state branches.consequent
  obtain ⟨alternate, state₂, second, adds₂⟩ := @synthesizes_branch state₁ branches.alternate
  have adds := adds₁.trans adds₂
  refine ⟨_, _, (outcome_bind_ok first).trans ((outcome_bind_ok second).trans
    (NumberedTree.outcome_make _ _)), adds.trans (adds_push (by simp)), adds.grown.size, ?_⟩
  rw [size_push]
  exact Nat.lt_succ_self _

end Making

section Scions

/-- A tree to be put in the place of a chain is there when nodes have been made. -/
theorem Graft.grown (graft : Graft start live spent path roots tree) (grown : Grown live live')
    (wider : roots ⊆ roots') : Graft start live' spent path roots' tree := by
  have places : ∀ {id}, id ∈ inPlace start live spent → id ∈ inPlace start live' spent :=
    fun placed => ⟨fun unplaced => placed.1 (grown.unplaced_iff.mp unplaced), placed.2⟩
  refine ⟨graft.reads.grown grown, graft.distinct, fun id member => ?_⟩
  rcases graft.origin id member with ⟨unplaced, among⟩ | ⟨placed, ⟨among, call, onPath, is⟩ | further⟩
  · exact Or.inl ⟨grown.unplaced_iff.mpr unplaced, wider among⟩
  · refine Or.inr ⟨places placed, Or.inl ⟨wider among, call, onPath, ?_⟩⟩
    have known := lt_size_of_slot is.2
    exact ⟨(grown.label known).trans is.1, grown.slots known ▸ is.2⟩
  · obtain ⟨above, inside, placed', role, slot⟩ := further
    have known := lt_size_of_slot slot
    exact Or.inr ⟨places placed, Or.inr ⟨above, inside, places placed', role,
      grown.slots known ▸ slot⟩⟩

/-- Something that a chain has gathered: an argument of a call on the way, or the value of a branch
that had none. -/
def Collected (start live : LiveTree) (path : List NodeId) (id : NodeId) : Prop :=
  (∃ call ∈ path, live.Argument call id) ∨
    (Unplaced start live id ∧ live.content? id = some (.constant .none, []))

variable (traced : Traced start live root home spent)

include traced

/-- **Beneath something that was gathered there is a tree.** -/
theorem graft_collected (spine : start.Spine head position path)
    (unspent : ∀ id ∈ path, id ∉ spent) (collected : Collected start live path id) :
    ∃ tree, tree.tag = id ∧ Graft start live spent path {id} tree := by
  rcases collected with ⟨call, onPath, isArgument⟩ | ⟨unplaced, content⟩
  · have inside : call ∈ inPlace start live spent :=
      mem_inPlace (spine.lt_size onPath) (unspent call onPath)
    obtain ⟨tree, rfl, stands⟩ := traced.kept.exists_tree traced.grounded
      (traced.kept.child call inside _ isArgument.2).1
    refine ⟨tree, rfl, stands.reads, stands.distinct, fun id member =>
      Or.inr ⟨stands.kept id member, ?_⟩⟩
    rcases exists_parent member with rfl | ⟨node, among, child, below, rfl⟩
    · exact Or.inl ⟨rfl, call, onPath, isArgument⟩
    · have among' := mem_tags_of_mem among (tag_mem_tags node)
      refine Or.inr ⟨node.tag, among', stands.kept _ among', child.1, ?_⟩
      rw [(stands.reads.of_mem among).slots]
      exact List.mem_map_of_mem below
  · refine ⟨.node id (.constant .none) [], rfl, reads_node.mpr ⟨content, fun _ absent =>
      absurd absent List.not_mem_nil⟩, List.nodup_singleton id, fun other member => ?_⟩
    obtain rfl := List.mem_singleton.mp (tags_node id _ [] ▸ member)
    exact Or.inl ⟨unplaced, rfl⟩

end Scions

section Conditionals

variable {condition : NodeId} {branches : BranchSet NodeId} {sources : NodeId → Set NodeId}

/-- **Above trees that share nothing a conditional expression** is such a tree. -/
theorem graft_conditional (whole : start.Whole)
    (traced : Traced start state.live root home spent)
    (spine : start.Spine head position path) (unspent : ∀ id ∈ path, id ∉ spent)
    (each : ∀ expr ∈ condition :: branches.exprs, ∃ tree, tree.tag = expr ∧
      Graft start state.live spent path (sources expr) tree)
    (distinct : (condition :: branches.exprs).Nodup)
    (apart : ∀ one ∈ condition :: branches.exprs, ∀ two ∈ condition :: branches.exprs,
      one ≠ two → Disjoint (sources one) (sources two)) :
    ∃ tree state', (Synthesis.conditional branches condition).outcome state =
        (.ok tree.tag, state') ∧ Graft start state'.live spent path
      {id | (∃ expr ∈ condition :: branches.exprs, id ∈ sources expr) ∨ state.live.size ≤ id}
      tree := by
  choose! grow tag graft using each
  have exprs : grow condition :: (branches.map grow).exprs =
      (condition :: branches.exprs).map grow := by
    rw [BranchSet.exprs_map, List.map_cons]
  have reads : ∀ tree ∈ grow condition :: (branches.map grow).exprs, state.live.Reads tree := by
    rw [exprs]
    intro tree member
    obtain ⟨expr, among, rfl⟩ := List.mem_map.mp member
    exact (graft expr among).reads
  have differ : ((grow condition :: (branches.map grow).exprs).flatMap Tree.tags).Nodup := by
    rw [exprs, List.flatMap_map, List.nodup_flatMap]
    refine ⟨fun expr among => (graft expr among).distinct,
      distinct.imp_of_mem fun {one two} first second other => ?_⟩
    exact (graft one first).disjoint whole traced spine unspent (graft two second)
      (apart one first two second other)
  obtain ⟨tree, state', outcome, grown, -, made, -⟩ :=
    NumberedTree.builds_conditional (fun id absent => absurd absent List.not_mem_nil) reads differ
  rw [BranchSet.map_map_self fun expr among => tag expr (List.mem_cons_of_mem _ among),
    tag condition List.mem_cons_self] at outcome
  refine ⟨tree, state', outcome, made.reads, made.distinct, fun id member => ?_⟩
  rcases made.origin id member with old | fresh
  · obtain ⟨inner, among, inside⟩ := List.mem_flatMap.mp old
    have beneath : ∀ id ∈ inner.tags, id ∈ tree.tags := fun id =>
      mem_tags_of_mem (made.inside inner among)
    rw [exprs] at among
    obtain ⟨expr, gathered, rfl⟩ := List.mem_map.mp among
    have wider : sources expr ⊆ {id | (∃ expr ∈ condition :: branches.exprs, id ∈ sources expr) ∨
        state.live.size ≤ id} := fun id inside => Or.inl ⟨expr, gathered, inside⟩
    refine (((graft expr gathered).grown grown wider).origin id inside).imp_right
      (And.imp_right (Or.imp_right ?_))
    rintro ⟨above, inside', rest⟩
    exact ⟨above, beneath above inside', rest⟩
  · refine Or.inl ⟨⟨Nat.le_trans traced.size fresh, ?_⟩, Or.inr fresh⟩
    rw [grown.parent]
    exact parent?_of_size_le fresh

end Conditionals

end LiveTree

end IfChains
