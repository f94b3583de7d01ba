/-
**What a replacement changes.**

Nodes that have left the tree keep their recorded parents, and nodes may have been placed beneath
parents that were never recorded. In any such table a node can be replaced exactly if it is
attached: its recorded parent still holds it. Then one slot of that parent changes, and nothing else
but the position of the new node and the recorded parents of that node and of those beneath it.

* `Attached`: a node is held by its recorded parent;
* `Substituted`: a tree has taken the place of a node, and what has not changed;
* `substituted_of_replace?`: what a replacement has come to;
* `Walk.replace_local`: **a replacement is refused and changes nothing, or it is local.**
-/

import IfChains.Proofs.Chain.Expanded
import IfChains.Proofs.Chain.Program

namespace IfChains

open IfChains.Tree

namespace LiveTree

variable {live live' : LiveTree} {old new id parent : NodeId}

/-- A node is attached: it has a recorded parent, which holds it in one of its slots. -/
def Attached (live : LiveTree) (id : NodeId) : Prop :=
  ∃ parent, live.parent? id = some parent ∧ ∃ role, (role, id) ∈ live.slots parent

/-- A tree has taken the first slot in which a parent holds a node. -/
structure Substituted (live live' : LiveTree) (old : NodeId) (new : NumberedTree)
    (parent : NodeId) : Prop where
  /-- The parent is the one that was recorded for the old node. -/
  above : live.parent? old = some parent
  size : live'.size = live.size
  labels : ∀ id, live'.label id = live.label id
  slot : ∃ before role after, (∀ other ∈ before, other.2 ≠ old) ∧
    live.slots parent = before ++ (role, old) :: after ∧
    live'.slots parent = before ++ (role, new.tag) :: after
  others : ∀ id, id ≠ parent → live'.slots id = live.slots id
  /-- The new node takes over the position of the old one, where both are of kinds that have one. -/
  position : live'.position? new.tag =
    if (live.label new.tag).positioned && (live.label old).positioned
    then (live.position? old).or (live.position? new.tag) else live.position? new.tag
  positions : ∀ id, id ≠ new.tag → live'.position? id = live.position? id
  hole : live'.parent? new.tag = some parent
  linked : live'.Linked new
  outside : ∀ id, id ∉ new.tags → live'.parent? id = live.parent? id

section Refusing

/-- A slot is swapped if there is one. -/
theorem exists_swapSlot {slots : List (Role × NodeId)} {role : Role} (new : NodeId)
    (member : (role, old) ∈ slots) : ∃ slots', swapSlot old new slots = some slots' := by
  induction slots with
  | nil => exact absurd member List.not_mem_nil
  | cons slot rest ih =>
    rw [swapSlot]
    split
    · exact ⟨_, rfl⟩
    · rename_i other
      have later : (role, old) ∈ rest := (List.mem_cons.mp member).resolve_left fun same =>
        other (congrArg Prod.snd same).symm
      obtain ⟨slots', swapped⟩ := ih later
      exact ⟨slot :: slots', by rw [swapped]; rfl⟩

/-- **A node can be replaced exactly if it is attached.** -/
theorem exists_replace?_iff (new : NodeId) :
    (∃ live', live.replace? old new = some live') ↔ live.Attached old := by
  constructor
  · rintro ⟨live', replaced⟩
    obtain ⟨parent, slots, entry, above, swapped, -⟩ := exists_of_replace? replaced
    obtain ⟨before, role, after, held, -⟩ := exists_of_swapSlot swapped
    exact ⟨parent, above, role, held ▸ List.mem_append_right _ List.mem_cons_self⟩
  · rintro ⟨parent, above, role, member⟩
    obtain ⟨entry, found, -⟩ := Option.bind_eq_some_iff.mp above
    obtain ⟨slots, swapped⟩ := exists_swapSlot new member
    exact ⟨_, replace?_eq above swapped found⟩

end Refusing

section Placing

/-- A change of a node that keeps its label leaves all labels alone. -/
theorem label_modify {change : Entry → Entry} (keeps : ∀ entry, (change entry).label = entry.label)
    (id other : NodeId) : (live.modify id change).label other = live.label other := by
  by_cases same : id = other
  · subst same
    rw [label, find?_modify, label]
    cases live.find? id with
    | none => rfl
    | some entry => exact keeps entry
  · rw [label, find?_modify_other live change same, label]

/-- The position of a node that was placed. -/
theorem position?_placed {slots : List (Role × NodeId)} {entry : Entry} (known : new < live.size)
    (found : live.find? old = some entry) :
    (live.placed parent new slots entry).position? new =
      if (live.label new).positioned && (live.label old).positioned
      then (live.position? old).or (live.position? new) else live.position? new := by
  have isNode : new < (live.modify parent fun entry => { entry with slots := slots }).size := by
    rwa [size_modify]
  have here := Array.getElem?_eq_getElem isNode
  rw [← @label_modify live (fun entry => { entry with slots := slots }) (fun _ => rfl) parent new,
    ← @position?_modify live (fun entry => { entry with slots := slots }) (fun _ => rfl) parent new,
    placed, position?, find?_modify, position?, position?, label, label, found, find?, here]
  rfl

/-- **What a replacement has come to**, if the parent does not lie in what takes the place. -/
theorem substituted_of_replace? {new : NumberedTree} (reads : live.Reads new)
    (distinct : new.tags.Nodup)
    (apart : ∀ parent, live.parent? old = some parent → parent ∉ new.tags)
    (replaced : live.replace? old new.tag = some live') :
    ∃ parent, Substituted live live' old new parent := by
  obtain ⟨size, labels, -⟩ := exists_slots_of_replace? replaced
  obtain ⟨-, positions⟩ := replace?_leaves replaced
  obtain ⟨parent, slots, entry, above, swapped, found, same⟩ := exists_of_replace? replaced
  obtain ⟨before, role, after, absent, held, rfl⟩ := exists_first_of_swapSlot swapped
  have known : parent < live.size := by
    have member : (role, old) ∈ live.slots parent :=
      held ▸ List.mem_append_right _ List.mem_cons_self
    exact lt_size_of_slot member
  have result := same ▸ @replaced_index live parent _ new entry known reads distinct
    (apart parent above)
  refine ⟨parent, above, size, labels, ⟨before, role, after, absent, held, ?_⟩, fun id other => ?_,
    ?_, positions, result.hole, result.linked, result.outside⟩
  · rw [slots_eq, result.content]
    rfl
  · rw [slots_eq, result.others id other, ← slots_eq]
  · rw [same, (samePositions_index ..).2]
    exact position?_placed (reads.lt_size (tag_mem_tags new)) found

end Placing

end LiveTree

namespace Walk

open LiveTree

/-- **A replacement is all or nothing, and local.** In any state, be recorded parents stale or not:
if a node has no recorded parent, or that one no longer holds it, the replacement is refused and
leaves the state as it was. Otherwise a tree in which no node occurs twice and the parent is not
takes the first slot of the node, and only what `Substituted` says has changed. -/
theorem replace_local (state : WalkState) (old : NodeId) (new : NumberedTree)
    (reads : state.live.Reads new) (distinct : new.tags.Nodup)
    (apart : ∀ parent, state.live.parent? old = some parent → parent ∉ new.tags) :
    (¬state.live.Attached old → (replace old new.tag).outcome state =
      (.error (.detached (state.live.label old).typeName), state)) ∧
    (state.live.Attached old → ∃ live' parent, (replace old new.tag).outcome state =
      (.ok (), { state with live := live' }) ∧ Substituted state.live live' old new parent) := by
  rw [← exists_replace?_iff new.tag]
  constructor
  · intro refused
    refine outcome_replace_none (Option.eq_none_iff_forall_ne_some.mpr fun live' replaced => ?_)
    exact refused ⟨live', replaced⟩
  · rintro ⟨live', replaced⟩
    obtain ⟨parent, substituted⟩ := substituted_of_replace? reads distinct apart replaced
    exact ⟨live', parent, outcome_replace replaced, substituted⟩

/-- The inner chain of a program is replaced by a name inside of it, and then it is no longer
attached: its recorded parent, which it keeps, does not hold it. -/
theorem replace_local_nestedChains :
    let state : WalkState := ⟨(ofTree nestedChains).2, [], []⟩
    let name : NumberedTree := .node 8 (.name "c" .load) []
    ∃ live parent, (replace 11 8).outcome state = (.ok (), { state with live := live }) ∧
      Substituted state.live live 11 name parent ∧ live.parent? 11 = some parent ∧
      (replace 11 8).outcome { state with live := live } =
        (.error (.detached "Call"), { state with live := live }) := by
  intro state name
  have reads : ∀ live : LiveTree, live.content? 8 = some (.name "c" .load, []) → live.Reads name :=
    fun live held => reads_node.mpr ⟨held, fun child absent => absurd absent List.not_mem_nil⟩
  have distinct : name.tags.Nodup := List.nodup_singleton 8
  have above : state.live.parent? 11 = some 12 := by decide +kernel
  obtain ⟨live, parent, replaced, substituted⟩ := (replace_local state 11 name
    (reads _ (by decide +kernel)) distinct (by rw [above]; decide)).2
    ⟨12, above, .args, by decide +kernel⟩
  have same : ((replace 11 8).outcome state).2.live = live := congrArg (·.2.live) replaced
  obtain rfl : parent = 12 := Option.some.inj (substituted.above.symm.trans above)
  have still : live.parent? 11 = some 12 := (substituted.outside 11 (by decide)).trans above
  have content : live.content? 8 = some (.name "c" .load, []) := by
    rw [← same]
    decide +kernel
  have slots : live.slots 12 = [(.func, 3), (.args, 8)] := by
    rw [← same]
    decide +kernel
  have loose : ¬live.Attached 11 := by
    rintro ⟨parent, above', role, member⟩
    obtain rfl : parent = 12 := Option.some.inj (above'.symm.trans still)
    rw [slots] at member
    simp at member
  have refused := (replace_local { state with live := live } 11 name (reads live content) distinct
    (by rw [still]; decide)).1 loose
  have named : live.label 11 = .call := by
    rw [substituted.labels 11]
    decide +kernel
  rw [named] at refused
  exact ⟨live, 12, replaced, substituted, still, refused⟩

end Walk

end IfChains
