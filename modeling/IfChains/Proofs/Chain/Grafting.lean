/-
**Putting a tree in the place of a chain.**

What takes the place of a chain is a tree of new nodes above some arguments of the chain's calls.
All of it has no place yet, but for these arguments and what lies beneath them.

* `Graft.exists_argument`: what is in its place in such a tree lies in an argument of the chain;
* `Graft.disjoint`: trees above different nodes share none;
* `Grafting.traced`: once the tree is in the place of the chain, the chain is spent, and the table
  can be traced back as before;
* `Grafting.ranges`: nothing else has happened.
-/

import IfChains.Proofs.Chain.Tracing

namespace IfChains

open IfChains.Tree

namespace LiveTree

variable {start live live' : LiveTree} {root id position above head : NodeId}
  {home : NodeId → NodeId} {spent roots roots' zone : Set NodeId} {path : List NodeId}
  {tree tree' : NumberedTree} {bound : Nat}

/-- A tree of nodes without a place above arguments of the calls on a path. The roots are those nodes
and those arguments. -/
structure Graft (start live : LiveTree) (spent : Set NodeId) (path : List NodeId)
    (roots : Set NodeId) (tree : NumberedTree) : Prop where
  reads : live.Reads tree
  distinct : tree.tags.Nodup
  origin : ∀ id ∈ tree.tags, (Unplaced start live id ∧ id ∈ roots) ∨
    (id ∈ inPlace start live spent ∧ ((id ∈ roots ∧ ∃ call ∈ path, live.Argument call id) ∨
      ∃ above ∈ tree.tags, above ∈ inPlace start live spent ∧
        ∃ role, (role, id) ∈ live.slots above))

section Grafts

/-- The children of a node of the tree differ. -/
theorem Graft.slots_nodup (graft : Graft start live spent path roots tree)
    (member : id ∈ tree.tags) : ((live.slots id).map Prod.snd).Nodup := by
  obtain ⟨node, among, rfl⟩ := exists_of_mem_tags member
  rw [(graft.reads.of_mem among).slots]
  have inner := graft.distinct.sublist (tags_sublist among)
  obtain ⟨tag, label, children⟩ := node
  exact nodup_slotsOf (List.nodup_cons.mp (tags_node tag label children ▸ inner)).2

variable (whole : start.Whole) (traced : Traced start live root home spent)
  (spine : start.Spine head position path) (unspent : ∀ id ∈ path, id ∉ spent)

include whole traced spine

/-- From a spine one climbs to its last call. -/
theorem Traced.climbs_last (member : id ∈ path) : live.Climbs id position := by
  induction whole.grounded id with
  | intro id _ ih =>
    rcases traced.rises_above whole spine member with rfl | ⟨⟨above, among, rises, rises'⟩, -⟩
    · exact .refl
    · exact (ih above rises among).head rises'

include unspent

omit whole in
/-- **What is in its place in the tree lies in an argument of the chain.** -/
theorem Graft.exists_argument (graft : Graft start live spent path roots tree)
    (member : id ∈ tree.tags) (placed : id ∈ inPlace start live spent) :
    ∃ call ∈ path, ∃ argument ∈ roots, live.Argument call argument ∧ live.Rises argument call ∧
      live.Climbs id argument := by
  induction traced.grounded id with
  | intro id _ ih =>
    rcases graft.origin id member with unplaced | ⟨-, ⟨among, call, onPath, isArgument⟩ | further⟩
    · exact absurd unplaced.1 placed.1
    · have inside : call ∈ inPlace start live spent :=
        mem_inPlace (spine.lt_size onPath) (unspent call onPath)
      have rises := (traced.kept.child call inside _ isArgument.2).2
      exact ⟨call, onPath, id, among, isArgument, rises, .refl⟩
    · obtain ⟨above, among, inside, role, slot⟩ := further
      have rises := (traced.kept.child above inside _ slot).2
      obtain ⟨call, onPath, argument, isRoot, isArgument, up, climbs⟩ :=
        ih above rises among inside
      exact ⟨call, onPath, argument, isRoot, isArgument, up, climbs.head rises⟩

/-- Nothing in the tree is above the chain. -/
theorem Graft.not_climbs_above (graft : Graft start live spent path roots tree)
    (rises : live.Rises position above) (member : id ∈ tree.tags) : ¬live.Climbs above id := by
  intro climbs
  rcases graft.origin id member with ⟨unplaced, -⟩ | ⟨placed, -⟩
  · rcases Relation.ReflTransGen.cases_tail climbs with rfl | ⟨below, -, up⟩
    · exact (traced.rises rises).2.2 unplaced
    · exact (traced.rises up).2.2 unplaced
  · obtain ⟨call, onPath, argument, -, -, up, inside⟩ :=
      graft.exists_argument traced spine unspent member placed
    have last := traced.climbs_last whole spine onPath
    exact traced.grounded.not_climbs up (((last.tail rises).trans climbs).trans inside)

/-- **Trees above different nodes share none.** -/
theorem Graft.disjoint (graft : Graft start live spent path roots tree)
    (graft' : Graft start live spent path roots' tree') (apart : Disjoint roots roots') :
    tree.tags.Disjoint tree'.tags := by
  have differ : ∀ id ∈ roots, id ∉ roots' := fun id member => Set.disjoint_left.mp apart member
  intro id member member'
  rcases graft.origin id member with unplaced | ⟨placed, -⟩
  · rcases graft'.origin id member' with unplaced' | ⟨placed', -⟩
    · exact differ id unplaced.2 unplaced'.2
    · exact placed'.1 unplaced.1
  · obtain ⟨call, onPath, argument, isRoot, isArgument, -, climbs⟩ :=
      graft.exists_argument traced spine unspent member placed
    obtain ⟨call', onPath', argument', isRoot', isArgument', -, climbs'⟩ :=
      graft'.exists_argument traced spine unspent member' placed
    have first := traced.argument_home isArgument
    have second := traced.argument_home isArgument'
    have same : home argument = home argument' := by
      rcases climbs.comparable climbs' with up | up
      · exact spine.eq_of_climbs whole onPath onPath' first second (traced.climbs up)
      · exact (spine.eq_of_climbs whole onPath' onPath second first (traced.climbs up)).symm
    exact differ argument isRoot (traced.eq_of_home whole isArgument isArgument' same ▸ isRoot')

end Grafts

/-- The homes once the new nodes of a tree have got a place. -/
noncomputable def rehomed (start live : LiveTree) (home : NodeId → NodeId) (tree : NumberedTree)
    (position id : NodeId) : NodeId :=
  open Classical in if Unplaced start live id ∧ id ∈ tree.tags then position else home id

theorem rehomed_placed (placed : ¬Unplaced start live id) :
    rehomed start live home tree position id = home id :=
  if_neg fun both => placed both.1

theorem rehomed_new (unplaced : Unplaced start live id) (member : id ∈ tree.tags) :
    rehomed start live home tree position id = position :=
  if_pos ⟨unplaced, member⟩

/-- A tree is put in the place of a chain that ends with a call. -/
structure Grafting (start live live' : LiveTree) (root : NodeId) (home : NodeId → NodeId)
    (spent : Set NodeId) (head position : NodeId) (path : List NodeId) (above : NodeId)
    (roots : Set NodeId) (tree : NumberedTree) : Prop where
  whole : start.Whole
  traced : Traced start live root home spent
  spine : start.Spine head position path
  unspent : ∀ id ∈ path, id ∉ spent
  graft : Graft start live spent path roots tree
  top : Unplaced start live tree.tag
  rises : live.Rises position above
  slots : ∃ before role after, live.slots above = before ++ (role, position) :: after ∧
    Replaced live live' above (before ++ (role, tree.tag) :: after) tree
  ends : start.Ends position

/-- What putting a tree in the place of a chain has led to. -/
theorem exists_grafting (whole : start.Whole) (traced : Traced start live root home spent)
    (spine : start.Spine head position path) (ends : start.Ends position)
    (unspent : ∀ id ∈ path, id ∉ spent) (graft : Graft start live spent path roots tree)
    (top : Unplaced start live tree.tag)
    (replaced : live.replace? position tree.tag = some live') :
    ∃ above, Grafting start live live' root home spent head position path above roots tree := by
  obtain ⟨above, -, -, rises, -⟩ := exists_of_replace? replaced
  have apart : above ∉ tree.tags := fun member =>
    graft.not_climbs_above whole traced spine unspent rises member .refl
  obtain ⟨slots, swapped, replaced⟩ := replaced_of_replace? replaced rises
    (traced.lt_size (traced.rises rises).2.2) graft.reads graft.distinct apart
  obtain ⟨before, role, after, held, rfl⟩ := exists_of_swapSlot swapped
  exact ⟨above, whole, traced, spine, unspent, graft, top, rises,
    ⟨before, role, after, held, replaced⟩, ends⟩

namespace Grafting

variable (grafting : Grafting start live live' root home spent head position path above roots tree)

include grafting

theorem placed_above : ¬Unplaced start live above :=
  (grafting.traced.rises grafting.rises).2.2

/-- Nothing in the tree is above the chain. -/
theorem not_climbs_above (member : id ∈ tree.tags) : ¬live.Climbs above id :=
  grafting.graft.not_climbs_above grafting.whole grafting.traced grafting.spine grafting.unspent
    grafting.rises member

theorem above_not_mem : above ∉ tree.tags :=
  fun member => grafting.not_climbs_above member .refl

/-- Nothing of the chain is in the tree. -/
theorem path_not_mem (onPath : id ∈ path) : id ∉ tree.tags := by
  obtain ⟨whole, traced, spine, unspent, graft, -, -, -⟩ := grafting
  intro member
  have known := spine.lt_size onPath
  obtain ⟨call, among, argument, -, isArgument, -, inside⟩ :=
    graft.exists_argument traced spine unspent member (mem_inPlace known (unspent id onPath))
  have climbs := traced.climbs inside
  rw [traced.old id known] at climbs
  exact spine.not_beneath whole onPath among (traced.argument_home isArgument) climbs

theorem size : live'.size = live.size := by
  obtain ⟨before, role, after, -, replaced⟩ := grafting.slots
  exact replaced.size

theorem hole : live'.Rises tree.tag above := by
  obtain ⟨before, role, after, -, replaced⟩ := grafting.slots
  exact replaced.hole

theorem parent?_outside (outside : id ∉ tree.tags) : live'.parent? id = live.parent? id := by
  obtain ⟨before, role, after, -, replaced⟩ := grafting.slots
  exact replaced.outside id outside

theorem rises_outside {up : NodeId} (outside : id ∉ tree.tags) :
    live'.Rises id up ↔ live.Rises id up := by
  rw [Rises, grafting.parent?_outside outside, Rises]

theorem content?_other (other : id ≠ above) : live'.content? id = live.content? id := by
  obtain ⟨before, role, after, -, replaced⟩ := grafting.slots
  exact replaced.others id other

theorem slots_other (other : id ≠ above) : live'.slots id = live.slots id := by
  rw [slots_eq, grafting.content?_other other, ← slots_eq]

theorem label_eq_label (id : NodeId) : live'.label id = live.label id := by
  obtain ⟨before, role, after, -, replaced⟩ := grafting.slots
  by_cases same : id = above
  · rw [same, label_eq, replaced.content]
    rfl
  · rw [label_eq, replaced.others id same, ← label_eq]

/-- The tree has got the slot of the chain. -/
theorem slots_above : ∃ before role after, live.slots above = before ++ (role, position) :: after ∧
    live'.slots above = before ++ (role, tree.tag) :: after := by
  obtain ⟨before, role, after, held, replaced⟩ := grafting.slots
  refine ⟨before, role, after, held, ?_⟩
  rw [slots_eq, replaced.content]
  rfl

/-- A child of the node above is the new tree or an old one. -/
theorem slot_above {slot : Role × NodeId} (member : slot ∈ live'.slots above) :
    slot.2 = tree.tag ∨ (slot ∈ live.slots above ∧ slot.2 ≠ position) := by
  obtain ⟨before, role, after, held, held'⟩ := grafting.slots_above
  have distinct := grafting.traced.slots_nodup grafting.whole grafting.placed_above
  rw [held, List.map_append, List.map_cons, List.nodup_middle, List.nodup_cons, ← List.map_append,
    List.mem_map] at distinct
  rw [held'] at member
  rw [held]
  have inside : slot ∈ before ++ after → slot ∈ before ++ (role, position) :: after ∧
      slot.2 ≠ position := fun among =>
    ⟨((List.sublist_cons_self _ after).append_left before).subset among,
      fun same => distinct.1 ⟨slot, among, same⟩⟩
  rcases List.mem_append.mp member with early | rest
  · exact Or.inr (inside (List.mem_append_left _ early))
  · rcases List.mem_cons.mp rest with rfl | late
    · exact Or.inl rfl
    · exact Or.inr (inside (List.mem_append_right _ late))

/-- The children of the node above differ. -/
theorem slots_nodup_above : ((live'.slots above).map Prod.snd).Nodup := by
  obtain ⟨before, role, after, held, held'⟩ := grafting.slots_above
  have distinct := grafting.traced.slots_nodup grafting.whole grafting.placed_above
  rw [held, List.map_append, List.map_cons, List.nodup_middle, List.nodup_cons] at distinct
  rw [held', List.map_append, List.map_cons, List.nodup_middle, List.nodup_cons]
  refine ⟨fun member => ?_, distinct.2⟩
  rw [← List.map_append] at member
  obtain ⟨slot, among, same⟩ := List.mem_map.mp member
  have before : slot ∈ live.slots above :=
    held ▸ ((List.sublist_cons_self _ after).append_left before).subset among
  exact grafting.traced.slot_placed grafting.placed_above before (same ▸ grafting.top)

/-- A node of the tree other than its root is a child in it. -/
theorem exists_parent (member : id ∈ tree.tags) : (id = tree.tag ∧ live'.Rises id above) ∨
    ∃ up ∈ tree.tags, live'.Rises id up ∧ ∃ role, (role, id) ∈ live.slots up := by
  obtain ⟨before, role, after, -, replaced⟩ := grafting.slots
  rcases LiveTree.exists_parent member with rfl | ⟨node, among, child, inside, rfl⟩
  · exact Or.inl ⟨rfl, replaced.hole⟩
  · refine Or.inr ⟨node.tag, mem_tags_of_mem among (tag_mem_tags node),
      replaced.linked node among child inside, child.1, ?_⟩
    rw [(grafting.graft.reads.of_mem among).slots]
    exact List.mem_map_of_mem inside

/-- A child of a node of the tree is in it, beneath that node. -/
theorem child {up : NodeId} (member : up ∈ tree.tags) {slot : Role × NodeId}
    (inside : slot ∈ live.slots up) : slot.2 ∈ tree.tags ∧ live'.Rises slot.2 up := by
  obtain ⟨before, role, after, -, replaced⟩ := grafting.slots
  obtain ⟨node, among, rfl⟩ := exists_of_mem_tags member
  rw [(grafting.graft.reads.of_mem among).slots] at inside
  obtain ⟨child, below, rfl⟩ := List.mem_map.mp inside
  exact ⟨mem_tags_of_mem among (mem_tags_of_mem (child_mem_preorder below) (tag_mem_tags _)),
    replaced.linked node among child below⟩

/-- The nodes of the tree have got places, and the others are as before. -/
theorem unplaced_iff :
    Unplaced start live' id ↔ Unplaced start live id ∧ id ∉ tree.tags := by
  by_cases member : id ∈ tree.tags
  · refine iff_of_false (fun unplaced => ?_) fun both => both.2 member
    rcases grafting.exists_parent member with ⟨-, rises⟩ | ⟨up, -, rises, -⟩
    · exact nomatch unplaced.2.symm.trans rises
    · exact nomatch unplaced.2.symm.trans rises
  · rw [Unplaced, grafting.parent?_outside member, Unplaced]
    exact (and_iff_left member).symm

/-- What had a place before has one still. -/
theorem placed (placed : ¬Unplaced start live id) : ¬Unplaced start live' id :=
  fun unplaced => placed (grafting.unplaced_iff.mp unplaced).1

/-- A node of the tree that was in its place before has lost its parent only if it is an argument of
the chain. -/
theorem stays_inside (member : id ∈ tree.tags) (inside : id ∈ inPlace start live spent) :
    (∃ call ∈ path, live.Argument call id) ∨
      ∃ up ∈ tree.tags, up ∈ inPlace start live spent ∧ live.Rises id up ∧ live'.Rises id up := by
  rcases grafting.graft.origin id member with unplaced | ⟨-, ⟨-, isArgument⟩ | further⟩
  · exact absurd unplaced.1 inside.1
  · exact Or.inl isArgument
  · obtain ⟨up, among, placed, role, slot⟩ := further
    exact Or.inr ⟨up, among, placed, (grafting.traced.kept.child up placed _ slot).2,
      (grafting.child among slot).2⟩

/-- What is in its place after the tree has got there: new nodes of the tree, and what was in its
place outside the chain. -/
theorem mem_inPlace_iff : id ∈ inPlace start live' (spent ∪ {id | id ∈ path}) ↔
    id ∈ tree.tags ∨ (id ∈ inPlace start live spent ∧ id ∉ path) := by
  constructor
  · rintro ⟨placed, unspent⟩
    rw [Set.mem_union, not_or] at unspent
    by_cases member : id ∈ tree.tags
    · exact Or.inl member
    · refine Or.inr ⟨⟨fun unplaced => placed ?_, unspent.1⟩, unspent.2⟩
      exact grafting.unplaced_iff.mpr ⟨unplaced, member⟩
  · rintro (member | ⟨⟨placed, unspent⟩, offPath⟩)
    · refine ⟨fun unplaced => (grafting.unplaced_iff.mp unplaced).2 member, fun both => ?_⟩
      rcases both with isSpent | onPath
      · rcases grafting.graft.origin id member with unplaced | inside
        · exact Nat.not_lt_of_le unplaced.1.1 (grafting.traced.spent id isSpent).1
        · exact inside.1.2 isSpent
      · exact grafting.path_not_mem onPath member
    · exact ⟨grafting.placed placed, fun both => both.elim unspent offPath⟩

/-- The homes of the children stay. -/
theorem slots_home (known : id < start.size) : (live'.slots id).map (fun slot =>
    (slot.1, rehomed start live home tree position slot.2)) = start.slots id := by
  have traced := grafting.traced
  have same : ∀ slots : List (Role × NodeId), (∀ slot ∈ slots, slot ∈ live.slots id) →
      slots.map (fun slot => (slot.1, rehomed start live home tree position slot.2)) =
        slots.map fun slot => (slot.1, home slot.2) := fun slots among =>
    List.map_congr_left fun slot member =>
      congrArg _ (rehomed_placed (traced.placed id known slot (among slot member)))
  rw [← traced.slots id known]
  by_cases here : id = above
  · subst here
    obtain ⟨before, role, after, held, held'⟩ := grafting.slots_above
    rw [held', held, List.map_append, List.map_append, List.map_cons, List.map_cons,
      rehomed_new grafting.top (tag_mem_tags tree),
      traced.old position (grafting.spine.lt_size grafting.spine.position_mem), same before,
      same after]
    · exact fun slot member => held ▸ List.mem_append_right _ (List.mem_cons_of_mem _ member)
    · exact fun slot member => held ▸ List.mem_append_left _ member
  · rw [grafting.slots_other here, same _ fun slot member => member]

/-- Recorded parents lead from home to home. -/
theorem rises_home {up : NodeId} (rises : live'.Rises id up) :
    start.Climbs (rehomed start live home tree position id)
        (rehomed start live home tree position up) ∧
      (up < start.size → start.Rises (rehomed start live home tree position id) up) ∧
      ¬Unplaced start live' up := by
  have traced := grafting.traced
  by_cases member : id ∈ tree.tags
  · rcases grafting.exists_parent member with ⟨rfl, hole⟩ | ⟨up', inside, rises', role, slot⟩
    · obtain rfl := rises.unique hole
      have placed := grafting.placed_above
      obtain ⟨climbs, first, -⟩ := traced.rises grafting.rises
      rw [traced.old position (grafting.spine.lt_size grafting.spine.position_mem)] at climbs first
      rw [rehomed_new grafting.top member, rehomed_placed placed]
      exact ⟨climbs, first, grafting.placed placed⟩
    · obtain rfl := rises.unique rises'
      have placedUp : ¬Unplaced start live' up := fun unplaced =>
        (grafting.unplaced_iff.mp unplaced).2 inside
      rcases grafting.graft.origin up inside with unplaced | ⟨placed, -⟩
      · rw [rehomed_new unplaced.1 inside]
        refine ⟨?_, fun old => absurd old (Nat.not_lt_of_le unplaced.1.1), placedUp⟩
        rcases grafting.graft.origin id member with unplaced' | ⟨placed', -⟩
        · rw [rehomed_new unplaced'.1 member]
        · obtain ⟨call, onPath, argument, -, -, up, inside⟩ :=
            grafting.graft.exists_argument traced grafting.spine grafting.unspent member
              placed'
          have climbs := traced.climbs ((inside.tail up).trans
            (traced.climbs_last grafting.whole grafting.spine onPath))
          rw [traced.old position (grafting.spine.lt_size grafting.spine.position_mem)] at climbs
          rwa [rehomed_placed placed'.1]
      · obtain ⟨placed', before⟩ := traced.kept.child up placed _ slot
        obtain ⟨climbs, first, -⟩ := traced.rises before
        rw [rehomed_placed placed'.1, rehomed_placed placed.1]
        exact ⟨climbs, first, placedUp⟩
  · have before := (grafting.rises_outside member).mp rises
    obtain ⟨climbs, first, placed⟩ := traced.rises before
    have placed' : ¬Unplaced start live id := fun unplaced => nomatch unplaced.2.symm.trans before
    rw [rehomed_placed placed', rehomed_placed placed]
    exact ⟨climbs, first, grafting.placed placed⟩

/-- What is no argument keeps its parent. -/
theorem stays {up : NodeId} (known : id < start.size) (rises : start.Rises id up)
    (notArgument : ∀ call, ¬start.Argument call id) : live'.Rises id up := by
  have traced := grafting.traced
  have before := traced.stays id known up rises notArgument
  by_cases member : id ∈ tree.tags
  · have inside : id ∈ inPlace start live spent := by
      rcases grafting.graft.origin id member with unplaced | ⟨placed, -⟩
      · exact absurd unplaced.1.1 (Nat.not_le_of_lt known)
      · exact placed
    rcases grafting.stays_inside member inside with ⟨call, -, isArgument⟩ | ⟨up', -, -, one, two⟩
    · have first := traced.argument_home isArgument
      rw [traced.old id known] at first
      exact absurd first (notArgument call)
    · exact one.unique before ▸ two
  · exact (grafting.rises_outside member).mpr before

/-- The nodes in their places keep to them. -/
theorem kept : live'.Kept (inPlace start live' (spent ∪ {id | id ∈ path})) := by
  have traced := grafting.traced
  have onPath : ∀ {id up : NodeId}, id ∈ path → id ≠ position → live.Rises id up → up ∈ path := by
    intro id up member other rises
    rcases traced.rises_above grafting.whole grafting.spine member with same | ⟨first, -⟩
    · exact absurd same other
    · obtain ⟨above, among, -, rises'⟩ := first
      exact rises.unique rises' ▸ among
  -- The children of a node outside the tree and the chain are outside as well.
  have outside : ∀ {id : NodeId} {slot : Role × NodeId}, id ∈ inPlace start live spent →
      id ∉ path → id ∉ tree.tags → slot ∈ live.slots id → slot.2 ≠ position →
      slot.2 ∈ inPlace start live' (spent ∪ {id | id ∈ path}) ∧ live'.Rises slot.2 id := by
    intro id slot placed offPath notInside member other
    obtain ⟨inside, rises⟩ := traced.kept.child id placed slot member
    have away : slot.2 ∉ tree.tags := by
      intro within
      rcases grafting.stays_inside within inside with ⟨call, among, isArgument⟩ | further
      · have known : call ∈ inPlace start live spent :=
          mem_inPlace (grafting.spine.lt_size among) (grafting.unspent call among)
        obtain rfl := rises.unique (traced.kept.child call known _ isArgument.2).2
        exact offPath among
      · obtain ⟨up, among, -, one, -⟩ := further
        exact notInside (rises.unique one ▸ among)
    refine ⟨grafting.mem_inPlace_iff.mpr (Or.inr ⟨inside, fun member => ?_⟩),
      (grafting.rises_outside away).mpr rises⟩
    exact offPath (onPath member other rises)
  refine ⟨fun id member => ?_, fun id member slot inside => ?_, fun id member => ?_⟩
  · rw [grafting.size]
    rcases grafting.mem_inPlace_iff.mp member with within | ⟨placed, -⟩
    · exact grafting.graft.reads.lt_size within
    · exact traced.kept.known id placed
  · by_cases within : id ∈ tree.tags
    · have other : id ≠ above := fun same => grafting.above_not_mem (same ▸ within)
      rw [grafting.slots_other other] at inside
      obtain ⟨within', rises⟩ := grafting.child within inside
      exact ⟨grafting.mem_inPlace_iff.mpr (Or.inl within'), rises⟩
    obtain ⟨placed, offPath⟩ := (grafting.mem_inPlace_iff.mp member).resolve_left within
    by_cases here : id = above
    · subst here
      rcases grafting.slot_above inside with same | ⟨before, other⟩
      · rw [same]
        exact ⟨grafting.mem_inPlace_iff.mpr (Or.inl (tag_mem_tags tree)), grafting.hole⟩
      · exact outside placed offPath within before other
    · rw [grafting.slots_other here] at inside
      refine outside placed offPath within inside fun same => here ?_
      exact (same ▸ (traced.kept.child id placed slot inside).2).unique grafting.rises
  · by_cases here : id = above
    · subst here
      exact grafting.slots_nodup_above
    rw [grafting.slots_other here]
    rcases grafting.mem_inPlace_iff.mp member with within | ⟨placed, -⟩
    · exact grafting.graft.slots_nodup within
    · exact traced.kept.distinct id placed

/-- The chain is spent, and its last call has lost its slot. -/
theorem spends (isSpent : id ∈ spent ∪ {id | id ∈ path}) : id < start.size ∧
    ∃ up, live'.Rises id up ∧ (start.Ends id → ∀ slot ∈ live'.slots up, slot.2 ≠ id) ∧
      (¬start.Ends id → up ∈ spent ∪ {id | id ∈ path}) := by
  have traced := grafting.traced
  have lost : ∀ {up : NodeId}, id < start.size → (∀ slot ∈ live.slots up, slot.2 ≠ id) →
      ∀ slot ∈ live'.slots up, slot.2 ≠ id := by
    intro up known before slot member same
    by_cases here : up = above
    · subst here
      rcases grafting.slot_above member with new | ⟨old, -⟩
      · exact Nat.not_lt_of_le grafting.top.1 (new ▸ same ▸ known)
      · exact before slot old same
    · exact before slot (grafting.slots_other here ▸ member) same
  rcases isSpent with isSpent | onPath
  · obtain ⟨known, up, rises, gone, further⟩ := traced.spent id isSpent
    have outside : id ∉ tree.tags := by
      intro member
      rcases grafting.graft.origin id member with unplaced | ⟨placed, -⟩
      · exact Nat.not_lt_of_le unplaced.1.1 known
      · exact placed.2 isSpent
    exact ⟨known, up, (grafting.rises_outside outside).mpr rises, fun ends => lost known (gone ends),
      fun goesOn => Or.inl (further goesOn)⟩
  · have known := grafting.spine.lt_size onPath
    have outside := grafting.path_not_mem onPath
    refine ⟨known, ?_⟩
    rcases traced.rises_above grafting.whole grafting.spine onPath with rfl | ⟨up, goesOn, -⟩
    · refine ⟨above, (grafting.rises_outside outside).mpr grafting.rises, fun _ slot member same => ?_,
        fun goesOn => absurd grafting.ends goesOn⟩
      rcases grafting.slot_above member with new | ⟨-, other⟩
      · exact Nat.not_lt_of_le grafting.top.1 (new ▸ same ▸ known)
      · exact other same
    · obtain ⟨up, among, -, rises⟩ := up
      exact ⟨up, (grafting.rises_outside outside).mpr rises, fun ends => absurd ends goesOn,
        fun _ => Or.inr among⟩

/-- Climbing ends still. -/
theorem grounded : live'.Grounded := by
  -- From the node above the tree the way up is as before, and so the tree hangs on it.
  have old : ∀ id, (∀ other, live.Climbs id other → other ∉ tree.tags) →
      Acc (fun above id => live'.Rises id above) id := by
    intro id
    induction grafting.traced.grounded id with
    | intro id _ ih =>
      refine fun away => ⟨_, fun up rises => ?_⟩
      have before := (grafting.rises_outside (away id .refl)).mp rises
      exact ih up before fun other climbs => away other (climbs.head before)
  have hole : Acc (fun above id => live'.Rises id above) tree.tag := by
    refine ⟨_, fun up rises => ?_⟩
    rw [rises.unique grafting.hole]
    exact old above fun other climbs member => grafting.not_climbs_above member climbs
  obtain ⟨before, role, after, -, replaced⟩ := grafting.slots
  intro id
  induction grafting.traced.grounded id with
  | intro id _ ih =>
    by_cases member : id ∈ tree.tags
    · exact replaced.linked.acc hole member
    · exact ⟨_, fun up rises => ih up ((grafting.rises_outside member).mp rises)⟩

/-- The root has no parent still. -/
theorem rootless (known : root < start.size) : live'.parent? root = none := by
  have traced := grafting.traced
  rw [grafting.parent?_outside fun member => ?_, traced.root]
  rcases grafting.graft.origin root member with unplaced | ⟨placed, -⟩
  · exact Nat.not_lt_of_le unplaced.1.1 known
  · obtain ⟨call, -, argument, -, -, up, climbs⟩ :=
      grafting.graft.exists_argument traced grafting.spine grafting.unspent member placed
    rcases Relation.ReflTransGen.cases_head climbs with rfl | ⟨next, rises, -⟩
    · exact nomatch traced.root.symm.trans up
    · exact nomatch traced.root.symm.trans rises

/-- **The table with the tree in the place of the chain** can be traced back. -/
theorem traced_after (known : root < start.size) :
    Traced start live' root (rehomed start live home tree position) (spent ∪ {id | id ∈ path}) := by
  have traced := grafting.traced
  refine ⟨grafting.size ▸ traced.size, fun id old => ?_, fun id outside => ?_, fun id old => ?_,
    fun id => grafting.slots_home, fun id old slot member => ?_, grafting.rises_home,
    fun id old up => grafting.stays old, grafting.kept, fun id => grafting.spends,
    grafting.grounded, grafting.rootless known⟩
  · rw [grafting.label_eq_label, traced.label id old]
  · rw [grafting.label_eq_label]
    exact traced.made id outside
  · rw [rehomed_placed fun unplaced => Nat.not_lt_of_le unplaced.1 old, traced.old id old]
  · by_cases here : id = above
    · subst here
      rcases grafting.slot_above member with same | ⟨before, -⟩
      · rw [same]
        exact fun unplaced => (grafting.unplaced_iff.mp unplaced).2 (tag_mem_tags tree)
      · exact grafting.placed (traced.placed id old slot before)
    · rw [grafting.slots_other here] at member
      exact grafting.placed (traced.placed id old slot member)

/-- **Nothing else has happened** below a bound for the new nodes. -/
theorem ranges (within : ∀ id ∈ path, id ∈ zone)
    (fresh : ∀ id ∈ tree.tags, Unplaced start live id → bound ≤ id) :
    Ranges start zone bound live spent live' (spent ∪ {id | id ∈ path}) := by
  refine ⟨Nat.le_of_eq grafting.size.symm, Set.subset_union_left,
    Set.union_subset_union_right _ within, fun id known slot member => ?_,
    fun id old unplaced => ?_⟩
  · by_cases same : slot.2 = position
    · have onPath := grafting.spine.position_mem
      rw [same]
      exact Or.inr ⟨Or.inr onPath, grafting.unspent position onPath⟩
    · refine Or.inl ?_
      by_cases here : id = above
      · subst here
        obtain ⟨before, role, after, held, held'⟩ := grafting.slots_above
        rw [held] at member
        rw [held']
        rcases List.mem_append.mp member with early | rest
        · exact List.mem_append_left _ early
        · rcases List.mem_cons.mp rest with rfl | late
          · exact absurd rfl same
          · exact List.mem_append_right _ (List.mem_cons_of_mem _ late)
      · rwa [grafting.slots_other here]
  · refine ⟨grafting.unplaced_iff.mpr ⟨unplaced, fun member => ?_⟩, grafting.content?_other ?_⟩
    · exact Nat.not_lt_of_le (fresh id member unplaced) old
    · rintro rfl
      exact grafting.placed_above unplaced

end Grafting

end LiveTree

end IfChains
