/-
**Chains that are gone.**

A chain that was replaced has lost its slot, and with it all its calls and members have left the
tree. They keep their recorded parents, which lead to the call without a slot. Whatever is tried
afterwards, the chain does not come back. So a name that counts as expanded is not in the tree.

* `Lost`: a call or a member of a chain that is gone; `Lost.not_mem`: it is not in the tree;
* `Traced.lost`: all that is gone counts as spent in a table that can be traced back;
* `Arrived.lost`: replacing a chain keeps what is gone, and the chain is gone that was not before;
* `upholds_resolver_lost`: what is gone stays gone, whatever expansions are tried;
* `Noted`: the names that count as expanded are different ones, and their chains are gone;
* `upholds_resolver_noted`: this is kept by expansions of names.
-/

import IfChains.Proofs.Chain.Roaming

namespace IfChains

open IfChains.Tree IfChains.Walk

namespace LiveTree

variable {start live live' : LiveTree} {root head id above : NodeId} {home : NodeId → NodeId}
  {spent roots zone : Set NodeId} {path path' : List NodeId} {tree : NumberedTree}

/-- A node of a chain that is gone: a call that ends its chain and has lost its slot, or a node
beneath such a call. -/
inductive Lost (start live : LiveTree) : NodeId → Prop
  | last {id above : NodeId} (ends : start.Ends id) (rises : live.Rises id above)
      (slotless : ∀ slot ∈ live.slots above, slot.2 ≠ id) : Lost start live id
  | beneath {id above : NodeId} (known : id < start.size) (goesOn : ¬start.Ends id)
      (rises : live.Rises id above) (further : Lost start live above) : Lost start live id

section Losing

theorem Lost.lt_size (lost : Lost start live id) : id < start.size := by
  cases lost with
  | last ends => exact lt_size_of_label (by simp [ends.1])
  | beneath known => exact known

/-- In a tree the recorded parent of a node is the one that holds it. -/
theorem mem_of_rises (reads : live.Reads tree) (linked : live.Linked tree)
    (rootless : live.parent? tree.tag = none) (rises : live.Rises id above)
    (member : id ∈ tree.tags) : above ∈ tree.tags ∧ ∃ slot ∈ live.slots above, slot.2 = id := by
  rcases exists_parent member with rfl | ⟨node, among, child, inside, rfl⟩
  · exact nomatch rootless.symm.trans rises
  · obtain rfl := rises.unique (linked node among child inside)
    refine ⟨mem_tags_of_mem among (tag_mem_tags node), (child.1, child.2.tag), ?_, rfl⟩
    rw [(reads.of_mem among).slots]
    exact List.mem_map_of_mem inside

/-- **What is gone is not in the tree.** -/
theorem Lost.not_mem (lost : Lost start live id) (reads : live.Reads tree)
    (linked : live.Linked tree) (rootless : live.parent? tree.tag = none) : id ∉ tree.tags := by
  induction lost with
  | last _ rises slotless =>
    intro member
    obtain ⟨-, slot, inside, same⟩ := mem_of_rises reads linked rootless rises member
    exact slotless slot inside same
  | beneath _ _ rises _ ih =>
    exact fun member => ih (mem_of_rises reads linked rootless rises member).1

/-- Making nodes brings nothing back. -/
theorem Lost.adds (lost : Lost start live id) (traced : Traced start live root home spent)
    (adds : Adds live live') : Lost start live' id := by
  induction lost with
  | last ends rises slotless =>
    have known := traced.lt_size (traced.rises rises).2.2
    exact .last ends (adds.grown.rises_iff.mpr rises) (adds.grown.slots known ▸ slotless)
  | beneath known goesOn rises _ ih =>
    exact .beneath known goesOn (adds.grown.rises_iff.mpr rises) ih

/-- What is spent is gone. -/
theorem Traced.lost_of_spent (traced : Traced start live root home spent) (isSpent : id ∈ spent) :
    Lost start live id := by
  induction traced.grounded id with
  | intro id _ ih =>
    obtain ⟨known, above, rises, slotless, further⟩ := traced.spent id isSpent
    by_cases ends : start.Ends id
    · exact .last ends rises (slotless ends)
    · exact .beneath known ends rises (ih above rises (further ends))

/-- What keeps to its place is not gone. -/
theorem Traced.not_lost_of_slot (traced : Traced start live root home spent)
    (placed : above ∈ inPlace start live spent) (present : ¬Lost start live above)
    {slot : Role × NodeId} (member : slot ∈ live.slots above) : ¬Lost start live slot.2 := by
  have rises := (traced.kept.child above placed slot member).2
  rintro (⟨-, rises', slotless⟩ | ⟨-, -, rises', further⟩)
  · exact slotless slot (rises.unique rises' ▸ member) rfl
  · exact present (rises.unique rises' ▸ further)

/-- **All that is gone counts as spent.** -/
theorem Traced.lost (traced : Traced start live root home spent) :
    Traced start live root home {id | Lost start live id} := by
  have within : ∀ id ∈ inPlace start live {id | Lost start live id},
      id ∈ inPlace start live spent :=
    fun id placed => ⟨placed.1, fun isSpent => placed.2 (traced.lost_of_spent isSpent)⟩
  have kept : live.Kept (inPlace start live {id | Lost start live id}) := by
    refine ⟨fun id placed => traced.kept.known id (within id placed),
      fun id placed slot member => ?_, fun id placed => traced.kept.distinct id (within id placed)⟩
    obtain ⟨inside, rises⟩ := traced.kept.child id (within id placed) slot member
    exact ⟨⟨inside.1, traced.not_lost_of_slot (within id placed) placed.2 member⟩, rises⟩
  refine ⟨traced.size, traced.label, traced.made, traced.old, traced.slots, traced.placed,
    traced.rises, traced.stays, kept, fun id lost => ⟨lost.lt_size, ?_⟩, traced.grounded,
    traced.root⟩
  cases lost with
  | last ends rises slotless =>
    exact ⟨_, rises, fun _ => slotless, fun goesOn => absurd ends goesOn⟩
  | beneath _ goesOn rises further =>
    exact ⟨_, rises, fun ends => absurd ends goesOn, fun _ => further⟩

end Losing

section Replacing

variable {position : NodeId}

/-- Nothing that is gone is in a tree that takes the place of a chain which is not. -/
theorem Graft.not_lost (graft : Graft start live spent path roots tree)
    (traced : Traced start live root home spent) (spine : start.Spine head position path)
    (present : ∀ id ∈ path, ¬Lost start live id) (member : id ∈ tree.tags) :
    ¬Lost start live id := by
  induction traced.grounded id with
  | intro id _ ih =>
    rcases graft.origin id member with ⟨unplaced, -⟩ | ⟨-, ⟨-, call, onPath, isArgument⟩ | further⟩
    · exact fun lost => Nat.not_lt_of_le unplaced.1 lost.lt_size
    · have unspent : call ∉ spent := fun isSpent =>
        present call onPath (traced.lost_of_spent isSpent)
      exact traced.not_lost_of_slot (mem_inPlace (spine.lt_size onPath) unspent)
        (present call onPath) isArgument.2
    · obtain ⟨above, among, inside, role, slot⟩ := further
      exact traced.not_lost_of_slot inside
        (ih above (traced.kept.child above inside _ slot).2 among) slot

/-- The tree may be told by what is gone. -/
theorem Graft.lost (graft : Graft start live spent path roots tree)
    (traced : Traced start live root home spent) (spine : start.Spine head position path)
    (present : ∀ id ∈ path, ¬Lost start live id) :
    Graft start live {id | Lost start live id} path roots tree := by
  have placed : ∀ {id}, id ∈ tree.tags → id ∈ inPlace start live spent →
      id ∈ inPlace start live {id | Lost start live id} := fun member inside =>
    ⟨inside.1, graft.not_lost traced spine present member⟩
  refine ⟨graft.reads, graft.distinct, fun id member => ?_⟩
  refine (graft.origin id member).imp_right fun ⟨inside, rest⟩ => ⟨placed member inside, ?_⟩
  exact rest.imp_right fun ⟨above, among, inside, slot⟩ =>
    ⟨above, among, placed among inside, slot⟩

variable {state : WalkState} {home' : NodeId → NodeId} {spent' : Set NodeId} {condition : NodeId}
  {result : Expansion.ChainResult}

/-- **Replacing a chain** brings nothing back, and the chain is gone that was not before. -/
theorem Arrived.lost (whole : start.Whole) (known : root < start.size)
    (arrived : Arrived start live state.live root zone home' spent spent' head [head] path'
      [condition] result)
    (replaced : state.live.replace? result.top result.expr = some live') :
    (∃ home spent, Traced start live' root home spent) ∧
      (∀ id, Lost start state.live id → Lost start live' id) ∧
      ∀ id ∈ path', Lost start live' id ∧ ¬Lost start state.live id := by
  have traced := arrived.traced
  have present : ∀ id ∈ path', ¬Lost start state.live id := fun id onPath lost =>
    traced.lost.unspent_of_replace? arrived.ends replaced
      (traced.lost.last_spent whole arrived.spine onPath lost)
  obtain ⟨tree, tag, graft⟩ := arrived.graft fun id onPath isSpent =>
    present id onPath (traced.lost_of_spent isSpent)
  have unplaced := arrived.unplaced
  rw [← tag] at replaced unplaced
  obtain ⟨above, grafting⟩ := LiveTree.exists_grafting whole traced.lost arrived.spine arrived.ends
    present (graft.lost traced arrived.spine present) unplaced replaced
  have after := grafting.traced_after known
  exact ⟨⟨_, _, after⟩, fun id lost => after.lost_of_spent (Or.inl lost),
    fun id onPath => ⟨after.lost_of_spent (Or.inr onPath), present id onPath⟩⟩

end Replacing

section Staying

variable (whole : start.Whole) (known : root < start.size)

include whole known

/-- **What is gone stays gone**, whatever expansions are tried. -/
theorem upholds_resolver_lost (entry : String) (lost : Set NodeId) (depth : Nat)
    (reference : NodeId) (remaining : List NodeId) :
    Upholds (fun state => (∃ home spent, Traced start state.live root home spent) ∧
        ∀ id ∈ lost, Lost start state.live id)
      (Expansion.resolver entry depth reference remaining) fun _ => True := by
  rintro state ⟨⟨home, spent, traced⟩, gone⟩
  have stays : ∀ after, Roams start root Set.univ state.live.size state.live
      {id | Lost start state.live id} after →
      (∃ home spent, Traced start after.live root home spent) ∧
        ∀ id ∈ lost, Lost start after.live id := by
    rintro after ⟨home', spent', traced', ranges⟩
    exact ⟨⟨home', spent', traced'⟩, fun id member =>
      traced'.lost_of_spent (ranges.spends (gone id member))⟩
  exact (safe_resolver whole known entry depth Set.univ home _ state reference remaining traced.lost
    fun _ _ _ _ => confined_univ).imp (fun _ after roams => ⟨stays after roams, trivial⟩)
    fun _ after roams => stays after roams

end Staying

/-- The names that count as expanded are different ones, and their chains are gone. -/
structure Noted (start : LiveTree) (root : NodeId) (live : LiveTree) (processed : List NodeId) :
    Prop where
  traced : ∃ home spent, Traced start live root home spent
  distinct : processed.Nodup
  gone : ∀ id ∈ processed, (∃ name usage, start.label id = .name name usage) ∧
    ∃ head, (.func, id) ∈ start.slots head ∧ Lost start live head

section Noting

variable {processed : List NodeId} {reference : NodeId} {resolve : Expansion.Resolver}
  {remaining references : List NodeId} (whole : start.Whole)

include whole

/-- **A name that counts as expanded is not in the tree.** -/
theorem Noted.not_mem (noted : Noted start root live processed) (reads : live.Reads tree)
    (linked : live.Linked tree) (rootless : live.parent? tree.tag = none)
    (member : id ∈ processed) : id ∉ tree.tags := by
  obtain ⟨home, spent, traced⟩ := noted.traced
  obtain ⟨⟨name, usage, label⟩, head, slot, lost⟩ := noted.gone id member
  have before := whole.rises slot
  have notArgument : ∀ call, ¬start.Argument call id := by
    intro call isArgument
    obtain rfl := (whole.rises isArgument.2).unique before
    exact nomatch whole.role_unique isArgument.2 slot
  have rises : live.Rises id head :=
    traced.stays id (lt_size_of_label (by simp [label])) head before notArgument
  exact fun inside => lost.not_mem reads linked rootless
    (mem_of_rises reads linked rootless rises inside).1

omit whole in
/-- Making nodes leaves this alone. -/
theorem making_noted (start : LiveTree) (root : NodeId) :
    Making (fun state => Noted start root state.live state.processed) fun _ => True where
  makes {state label slots} composed _ held := by
    have adds : Adds state.live (state.live.push label none slots).2 :=
      adds_push (kind_of_composed composed).2
    obtain ⟨home, spent, traced⟩ := held.traced
    refine ⟨⟨⟨home, spent, traced.adds adds⟩, held.distinct, fun id member => ?_⟩, trivial⟩
    obtain ⟨name, head, slot, lost⟩ := held.gone id member
    exact ⟨name, head, slot, lost.adds traced adds⟩

variable (known : root < start.size)

include known

/-- **Replacing the chain of a name**, which then counts as expanded. -/
theorem AtEnd.noted {state : WalkState} {reached : NodeId × Expansion.ChainResult}
    (traced : Traced start live root home spent)
    (atEnd : AtEnd start root zone live spent reference reached state)
    (isName : ∃ name usage, start.label reference = .name name usage)
    (noted : Noted start root state.live state.processed)
    (replaced : state.live.replace? reached.2.top reached.2.expr = some live') :
    Noted start root live' (reference :: state.processed) := by
  obtain ⟨middle, home', spent', spent'', path', condition, -, slot, -, -, arrived⟩ := atEnd
  obtain ⟨traced', stays, gone⟩ := arrived.lost whole known replaced
  obtain ⟨lost, present⟩ := gone reached.1 arrived.spine.head_mem
  have slot' : (.func, reference) ∈ start.slots reached.1 := by
    obtain ⟨name, usage, label⟩ := isName
    have home := traced.slot_home (arrived.spine.lt_size arrived.spine.head_mem) slot
    rwa [traced.old reference (lt_size_of_label (by simp [label]))] at home
  refine ⟨traced', List.nodup_cons.mpr ⟨fun member => ?_, noted.distinct⟩,
    List.forall_mem_cons.mpr ⟨⟨isName, reached.1, slot', lost⟩, fun id member => ?_⟩⟩
  · -- The chain of a name that counts as expanded would have been gone before.
    obtain ⟨-, head, slot'', lost'⟩ := noted.gone reference member
    obtain rfl := (whole.rises slot'').unique (whole.rises slot')
    exact present lost'
  · obtain ⟨isName', head, slot'', lost'⟩ := noted.gone id member
    exact ⟨isName', head, slot'', stays head lost'⟩

theorem upholds_expandReference_noted (safe : Safe start root resolve)
    (resolves : ∀ reference later, reference :: later ⊆ remaining →
      Upholds (fun state => Noted start root state.live state.processed)
        (resolve reference later) fun _ => True)
    (entry : String) (isName : ∃ name usage, start.label reference = .name name usage) :
    Upholds (fun state => Noted start root state.live state.processed)
      (Expansion.expandReference resolve entry reference remaining) fun _ => True := by
  rw [Expansion.expandReference_eq]
  refine upholds_look (looks_isProcessed reference) fun processed => ?_
  split
  · exact upholds_pure trivial
  intro state noted
  obtain ⟨home, spent, traced⟩ := noted.traced
  have reaches := (@meets_reach _ _ Set.univ _ _ _ _ whole safe entry reference remaining traced
    fun _ _ _ _ => confined_univ).and
      ((making_noted start root).upholds_reach resolves entry reference state noted)
  refine Meets.bind (reaches.imp (fun _ _ both => both) fun _ _ both => both.2) ?_
  rintro ⟨head, result⟩ after ⟨atEnd, noted', -⟩
  cases replaced : after.live.replace? result.top result.expr with
  | none =>
    rw [Meets, outcome_bind_error (outcome_replace_none replaced)]
    exact noted'
  | some live =>
    have noted'' := AtEnd.noted whole known traced atEnd isName noted' replaced
    exact meets_bind_ok (outcome_replace replaced) (meets_bind_ok rfl (meets_bind_ok outcome_live
      (meets_bind_ok rfl (meets_pure ⟨noted'', trivial⟩))))

/-- **Expansions of names** keep that the chains of those are gone which count as expanded. -/
theorem upholds_resolver_noted
    (names : ∀ id ∈ references, ∃ name usage, start.label id = .name name usage) (entry : String)
    (depth : Nat) (reference : NodeId) (later : List NodeId)
    (subset : reference :: later ⊆ references) :
    Upholds (fun state => Noted start root state.live state.processed)
      (Expansion.resolver entry depth reference later) fun _ => True := by
  induction depth generalizing reference later with
  | zero => exact upholds_throw _
  | succ depth ih =>
    exact upholds_expandReference_noted whole known (safe_resolver whole known entry depth)
      (fun other rest inside => ih other rest
        (List.Subset.trans inside (List.subset_of_cons_subset subset)))
      entry (names reference (subset List.mem_cons_self))

end Noting

end LiveTree

end IfChains
