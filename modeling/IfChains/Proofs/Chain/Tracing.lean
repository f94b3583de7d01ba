/-
**Tables that can be traced back.**

Expansions take nodes from a table and put other ones into their places. Whatever expansions were
tried, each node that has got a place has a home: the node of the first table whose place it has got
in the end. Calls and members that were replaced with their chains are spent; they keep their
recorded parents, but the tree does not hold them any more.

* `Traced`: what is true of such a table;
* `Traced.climbs`: climbing is climbing in the first table, from home to home;
* `Traced.last_spent`: with anything on the spine of a chain its last call is spent;
* `Ranges`: what has happened to a table, within some zone of the first one;
* `Traced.adds`: making nodes that are neither calls nor members keeps all this.
-/

import IfChains.Proofs.Chain.Spine
import IfChains.Proofs.LiveTree.Replacement

namespace IfChains

namespace LiveTree

/-- A node that was made after a table and has not got a place. -/
def Unplaced (start live : LiveTree) (id : NodeId) : Prop :=
  start.size ≤ id ∧ live.parent? id = none

/-- The nodes that are in their places: they have got one and are not spent. -/
def inPlace (start live : LiveTree) (spent : Set NodeId) : Set NodeId :=
  {id | ¬Unplaced start live id ∧ id ∉ spent}

/-- A table that can be traced back to an earlier one, by the homes of its nodes. -/
structure Traced (start live : LiveTree) (root : NodeId) (home : NodeId → NodeId)
    (spent : Set NodeId) : Prop where
  size : start.size ≤ live.size
  label : ∀ id < start.size, live.label id = start.label id
  /-- No call and no member has been made. -/
  made : ∀ id, start.size ≤ id →
    live.label id ≠ .call ∧ ∀ name usage, live.label id ≠ .member name usage
  old : ∀ id < start.size, home id = id
  slots : ∀ id < start.size,
    (live.slots id).map (fun slot => (slot.1, home slot.2)) = start.slots id
  placed : ∀ id < start.size, ∀ slot ∈ live.slots id, ¬Unplaced start live slot.2
  rises : ∀ {id above : NodeId}, live.Rises id above →
    start.Climbs (home id) (home above) ∧ (above < start.size → start.Rises (home id) above) ∧
      ¬Unplaced start live above
  /-- Only arguments have been moved. -/
  stays : ∀ id < start.size, ∀ above, start.Rises id above →
    (∀ call, ¬start.Argument call id) → live.Rises id above
  kept : live.Kept (inPlace start live spent)
  /-- The last call of a spent chain has lost its slot, and the rest leads there. -/
  spent : ∀ id ∈ spent, id < start.size ∧ ∃ above, live.Rises id above ∧
    (start.Ends id → ∀ slot ∈ live.slots above, slot.2 ≠ id) ∧ (¬start.Ends id → above ∈ spent)
  grounded : live.Grounded
  root : live.parent? root = none

/-- What has happened to a table within a zone of an earlier one: nodes of the zone have been spent
and have lost their slots, and the nodes below a bound that had no place have none still. -/
structure Ranges (start : LiveTree) (zone : Set NodeId) (bound : Nat) (live : LiveTree)
    (spent : Set NodeId) (live' : LiveTree) (spent' : Set NodeId) : Prop where
  size : live.size ≤ live'.size
  spends : spent ⊆ spent'
  within : spent' ⊆ spent ∪ zone
  slots : ∀ id < start.size, ∀ slot ∈ live.slots id,
    slot ∈ live'.slots id ∨ (slot.2 ∈ spent' ∧ slot.2 ∉ spent)
  unplaced : ∀ id < bound, Unplaced start live id →
    Unplaced start live' id ∧ live'.content? id = live.content? id

variable {start live live' live'' : LiveTree} {root id above call argument argument' : NodeId}
  {home : NodeId → NodeId} {spent spent' spent'' zone zone' : Set NodeId} {bound bound' : Nat}

/-- A whole table can be traced back to itself. -/
theorem Whole.traced (whole : live.Whole) (rootless : live.parent? root = none) :
    Traced live live root (fun id => id) ∅ := by
  have node : ∀ id < live.size, ¬Unplaced live live id :=
    fun id known unplaced => Nat.lt_irrefl id (Nat.lt_of_lt_of_le known unplaced.1)
  have nodes : inPlace live live ∅ = {id | id < live.size} := by
    refine Set.ext fun id => ⟨fun placed => ?_, fun known => ⟨node id known, Set.notMem_empty id⟩⟩
    by_contra outside
    exact placed.1 ⟨Nat.le_of_not_lt outside, parent?_of_size_le (Nat.le_of_not_lt outside)⟩
  refine ⟨Nat.le_refl _, fun _ _ => rfl, fun id outside => ?_, fun _ _ => rfl, fun id _ => ?_,
    fun id known slot member => node _ (whole.kept.child id known slot member).1,
    fun rises => ⟨.single rises, fun _ => rises, node _ (whole.beneath rises)⟩,
    fun _ _ _ rises _ => rises, nodes ▸ whole.kept, fun id absent => absurd absent (Set.notMem_empty id),
    whole.grounded, rootless⟩
  · simp [label_of_size_le outside]
  · exact List.map_id' _

section Homes

variable (traced : Traced start live root home spent)

include traced

theorem Traced.lt_size_of_call (label : live.label id = .call) : id < start.size := by
  by_contra outside
  exact (traced.made id (Nat.le_of_not_lt outside)).1 label

theorem Traced.lt_size_of_member {name : String} {usage : Usage}
    (label : live.label id = .member name usage) : id < start.size := by
  by_contra outside
  exact (traced.made id (Nat.le_of_not_lt outside)).2 name usage label

/-- **Climbing is climbing from home to home.** -/
theorem Traced.climbs (climbs : live.Climbs id above) : start.Climbs (home id) (home above) := by
  induction climbs with
  | refl => exact .refl
  | tail _ rises ih => exact ih.trans (traced.rises rises).1

/-- The homes of children are children. -/
theorem Traced.slot_home (known : id < start.size) {slot : Role × NodeId}
    (member : slot ∈ live.slots id) : (slot.1, home slot.2) ∈ start.slots id := by
  rw [← traced.slots id known]
  exact List.mem_map_of_mem member

/-- The home of an argument is an argument. -/
theorem Traced.argument_home (isArgument : live.Argument call argument) :
    start.Argument call (home argument) := by
  have known := traced.lt_size_of_call isArgument.1
  exact ⟨(traced.label call known).symm.trans isArgument.1, traced.slot_home known isArgument.2⟩

/-- An argument has got a place. -/
theorem Traced.placed_argument (isArgument : live.Argument call argument) :
    ¬Unplaced start live argument :=
  traced.placed call (traced.lt_size_of_call isArgument.1) _ isArgument.2

/-- The children of a node have different homes. -/
theorem Traced.homes_nodup (whole : start.Whole) (known : id < start.size) :
    ((live.slots id).map fun slot => home slot.2).Nodup := by
  have distinct := whole.kept.distinct id known
  rwa [← traced.slots id known, List.map_map] at distinct

/-- An argument is told by its home. -/
theorem Traced.eq_of_home (whole : start.Whole) (isArgument : live.Argument call argument)
    (isArgument' : live.Argument call' argument') (same : home argument = home argument') :
    argument = argument' := by
  have up := whole.rises (traced.argument_home isArgument).2
  have up' := whole.rises (traced.argument_home isArgument').2
  rw [← same] at up'
  obtain rfl := up.unique up'
  have distinct := traced.homes_nodup whole (traced.lt_size_of_call isArgument.1)
  exact (Prod.mk.inj (List.inj_on_of_nodup_map distinct isArgument.2 isArgument'.2 same)).2

/-- The children of a node that has got a place differ. -/
theorem Traced.slots_nodup (whole : start.Whole) (placed : ¬Unplaced start live id) :
    ((live.slots id).map Prod.snd).Nodup := by
  by_cases known : id < start.size
  · have homes := traced.homes_nodup whole known
    rw [← Function.comp_def, ← List.map_map] at homes
    exact homes.of_map _
  · refine traced.kept.distinct id ⟨placed, fun spent => known (traced.spent id spent).1⟩

omit traced in
/-- An old node that is not spent is in its place. -/
theorem mem_inPlace (known : id < start.size) (unspent : id ∉ spent) :
    id ∈ inPlace start live spent :=
  ⟨fun unplaced => Nat.not_lt_of_le unplaced.1 known, unspent⟩

/-- The children of a node that has got a place have places. -/
theorem Traced.slot_placed (placed : ¬Unplaced start live id) {slot : Role × NodeId}
    (member : slot ∈ live.slots id) : ¬Unplaced start live slot.2 := by
  by_cases known : id < start.size
  · exact traced.placed id known slot member
  · have inside : id ∈ inPlace start live spent :=
      ⟨placed, fun isSpent => known (traced.spent id isSpent).1⟩
    exact (traced.kept.child id inside slot member).1.1

/-- What has got a place is a node. -/
theorem Traced.lt_size (placed : ¬Unplaced start live id) : id < live.size := by
  by_contra outside
  exact placed ⟨Nat.le_trans traced.size (Nat.le_of_not_lt outside),
    parent?_of_size_le (Nat.le_of_not_lt outside)⟩

/-- What is on a spine beneath another node has kept its parent. -/
theorem Traced.rises_above {head position : NodeId} {path : List NodeId} (whole : start.Whole)
    (spine : start.Spine head position path) (member : id ∈ path) : id = position ∨
      ((∃ above ∈ path, start.Rises id above ∧ live.Rises id above) ∧ ¬start.Ends id ∧
        ∀ call, ¬start.Argument call id) := by
  refine (spine.above whole member).imp_right ?_
  rintro ⟨⟨above, among, rises⟩, goesOn, notArgument⟩
  exact ⟨⟨above, among, rises, traced.stays id (spine.lt_size member) above rises notArgument⟩,
    goesOn, notArgument⟩

/-- **With anything on a spine its last call is spent.** -/
theorem Traced.last_spent {head position : NodeId} {path : List NodeId} (whole : start.Whole)
    (spine : start.Spine head position path) (member : id ∈ path) (isSpent : id ∈ spent) :
    position ∈ spent := by
  induction whole.grounded id with
  | intro id _ ih =>
    rcases traced.rises_above whole spine member with rfl | ⟨⟨above, among, rises, rises'⟩, goesOn, -⟩
    · exact isSpent
    · obtain ⟨-, above', rises'', -, further⟩ := traced.spent id isSpent
      exact ih above rises among (rises''.unique rises' ▸ further goesOn)

/-- **Beneath the root the table reads as a tree.** -/
theorem Traced.exists_tree (known : root < start.size) :
    ∃ tree : NumberedTree, tree.tag = root ∧ live.Stands (inPlace start live spent) tree := by
  have unspent : root ∉ spent := by
    intro isSpent
    obtain ⟨-, above, rises, -⟩ := traced.spent root isSpent
    exact nomatch traced.root.symm.trans rises
  exact traced.kept.exists_tree traced.grounded (mem_inPlace known unspent)

/-- A call that ends a chain and has been replaced just now was not spent. -/
theorem Traced.unspent_of_replace? {new : NodeId} (ends : start.Ends id)
    (replaced : live.replace? id new = some live') : id ∉ spent := by
  intro isSpent
  obtain ⟨parent, slots, old, rises, swapped, -, -⟩ := exists_of_replace? replaced
  obtain ⟨before, role, after, held, -⟩ := exists_of_swapSlot swapped
  obtain ⟨-, above, rises', lost, -⟩ := traced.spent id isSpent
  obtain rfl := Rises.unique rises rises'
  exact lost ends (role, id) (held ▸ List.mem_append_right _ List.mem_cons_self) rfl

end Homes

section Ranging

theorem Ranges.refl : Ranges start zone bound live spent live spent :=
  ⟨Nat.le_refl _, subset_rfl, Set.subset_union_left, fun _ _ _ member => Or.inl member,
    fun _ _ unplaced => ⟨unplaced, rfl⟩⟩

theorem Ranges.trans (first : Ranges start zone bound live spent live' spent')
    (second : Ranges start zone bound live' spent' live'' spent'') :
    Ranges start zone bound live spent live'' spent'' := by
  refine ⟨Nat.le_trans first.size second.size, first.spends.trans second.spends, ?_,
    fun id known slot member => ?_, fun id old unplaced => ?_⟩
  · refine second.within.trans (Set.union_subset first.within Set.subset_union_right)
  · rcases first.slots id known slot member with kept | lost
    · exact (second.slots id known slot kept).imp_right fun lost =>
        ⟨lost.1, fun before => lost.2 (first.spends before)⟩
    · exact Or.inr ⟨second.spends lost.1, lost.2⟩
  · obtain ⟨unplaced', content⟩ := first.unplaced id old unplaced
    obtain ⟨unplaced'', content'⟩ := second.unplaced id old unplaced'
    exact ⟨unplaced'', content'.trans content⟩

theorem Ranges.mono (ranges : Ranges start zone bound live spent live' spent')
    (wider : zone ⊆ zone') (lower : bound' ≤ bound) :
    Ranges start zone' bound' live spent live' spent' :=
  ⟨ranges.size, ranges.spends, ranges.within.trans (Set.union_subset_union_right _ wider),
    ranges.slots, fun id old => ranges.unplaced id (Nat.lt_of_lt_of_le old lower)⟩

/-- **A child outside the zone** keeps its slot. -/
theorem Ranges.slot_kept (ranges : Ranges start zone bound live spent live' spent')
    (known : id < start.size) {slot : Role × NodeId} (member : slot ∈ live.slots id)
    (outside : slot.2 ∉ zone) : slot ∈ live'.slots id :=
  (ranges.slots id known slot member).resolve_right fun lost =>
    (ranges.within lost.1).elim lost.2 outside

end Ranging

section Adding

/-- Nodes have been made that are neither calls nor members. -/
structure Adds (live live' : LiveTree) : Prop where
  grown : Grown live live'
  plain : ∀ id, live.size ≤ id →
    live'.label id ≠ .call ∧ ∀ name usage, live'.label id ≠ .member name usage

theorem Adds.refl (live : LiveTree) : Adds live live :=
  ⟨.refl live, fun id outside => by simp [label_of_size_le outside]⟩

theorem Adds.trans (first : Adds live live') (second : Adds live' live'') : Adds live live'' := by
  refine ⟨first.grown.trans second.grown, fun id old => ?_⟩
  rcases Nat.lt_or_ge id live'.size with known | fresh
  · rw [label_eq, second.grown.content id known, ← label_eq]
    exact first.plain id old
  · exact second.plain id fresh

/-- What is in the table keeps its label. -/
theorem Grown.label (grown : Grown live live') (known : id < live.size) :
    live'.label id = live.label id := by
  rw [label_eq, grown.content id known, ← label_eq]

/-- What is in the table keeps its children. -/
theorem Grown.slots (grown : Grown live live') (known : id < live.size) :
    live'.slots id = live.slots id := by
  rw [slots_eq, grown.content id known, ← slots_eq]

/-- Recorded parents stay. -/
theorem Grown.rises_iff (grown : Grown live live') : live'.Rises id above ↔ live.Rises id above := by
  rw [Rises, grown.parent, Rises]

theorem Grown.unplaced_iff (grown : Grown live live') :
    Unplaced start live' id ↔ Unplaced start live id := by
  rw [Unplaced, grown.parent, Unplaced]

/-- **Making nodes that are neither calls nor members.** -/
theorem Traced.adds (traced : Traced start live root home spent) (adds : Adds live live') :
    Traced start live' root home spent := by
  have grown := adds.grown
  have old : ∀ id < start.size, id < live.size := fun id known =>
    Nat.lt_of_lt_of_le known traced.size
  have rises : live'.Rises = live.Rises := by
    funext id above
    exact propext grown.rises_iff
  have places : inPlace start live' spent = inPlace start live spent :=
    Set.ext fun id => and_congr_left fun _ => not_congr grown.unplaced_iff
  refine ⟨Nat.le_trans traced.size grown.size, fun id known => ?_, fun id outside => ?_, traced.old,
    fun id known => ?_, fun id known slot member => ?_, fun up => ?_,
    fun id known above up notArgument => ?_, ?_, fun id isSpent => ?_, ?_, ?_⟩
  · rw [grown.label (old id known), traced.label id known]
  · rcases Nat.lt_or_ge id live.size with known | fresh
    · rw [grown.label known]
      exact traced.made id outside
    · exact adds.plain id fresh
  · rw [grown.slots (old id known), traced.slots id known]
  · rw [grown.slots (old id known)] at member
    rw [grown.unplaced_iff]
    exact traced.placed id known slot member
  · rw [grown.unplaced_iff]
    exact traced.rises (grown.rises_iff.mp up)
  · exact grown.rises_iff.mpr (traced.stays id known above up notArgument)
  · rw [places]
    refine ⟨fun id member => Nat.lt_of_lt_of_le (traced.kept.known id member) grown.size,
      fun id member => ?_, fun id member => ?_⟩
    · rw [grown.slots (traced.kept.known id member), rises]
      exact traced.kept.child id member
    · rw [grown.slots (traced.kept.known id member)]
      exact traced.kept.distinct id member
  · obtain ⟨known, above, up, lost, further⟩ := traced.spent id isSpent
    refine ⟨known, above, grown.rises_iff.mpr up, fun ends slot member => ?_, further⟩
    rw [grown.slots (traced.lt_size (traced.rises up).2.2)] at member
    exact lost ends slot member
  · rw [Grounded, rises]
    exact traced.grounded
  · rw [grown.parent, traced.root]

/-- **Making nodes** changes nothing else. -/
theorem Adds.ranges (adds : Adds live live') (traced : Traced start live root home spent)
    (lower : bound ≤ live.size) : Ranges start zone bound live spent live' spent := by
  refine ⟨adds.grown.size, subset_rfl, Set.subset_union_left, fun id known slot member => ?_,
    fun id old unplaced => ?_⟩
  · rw [adds.grown.slots (Nat.lt_of_lt_of_le known traced.size)]
    exact Or.inl member
  · exact ⟨adds.grown.unplaced_iff.mpr unplaced,
      adds.grown.content id (Nat.lt_of_lt_of_le old lower)⟩

end Adding

end LiveTree

end IfChains
