/-
**What expansions make of a table.**

A table that has come from another one by expansions keeps the old nodes with their labels. A slot
still holds what it held, or it holds a new node where it held a call. A new node is one of those
that an expansion makes: a display, a constant, a minus sign, a subscript or a conditional
expression. What is unpacked stands in it only before the last element of a display.

* `Makes.succeeds`: what an expansion makes stays so when its slots change;
* `Expanded.push`, `Expanded.replace?`: making such a node and putting a new node in the place of a
  call lead from such a table to another one;
* `Expanded.old_of_label`, `Expanded.slot_of_old`: what is not new stands where it stood;
* `Expanded.forall₂_children`: the children of a node, before and after.
-/

import IfChains.Proofs.Chain.Spine
import IfChains.Proofs.LiveTree.Replacement
import Mathlib.Data.List.Forall2

namespace IfChains

open IfChains.Tree

namespace LiveTree

variable {start live live' : LiveTree} {id : NodeId} {label : Label}
  {slots slots' : List (Role × NodeId)}

/-- A node that may stand alone in what an expansion makes, since it is not unpacked. -/
def Plain (start : LiveTree) (id : NodeId) : Prop :=
  (start.label id).isStarred = false

/-- A new node is not unpacked. -/
theorem plain_of_new (new : start.size ≤ id) : start.Plain id := by
  rw [Plain, label_of_size_le new]
  rfl

/-- The nodes that expansions make. A display has two elements at least, and only those before the
last one may be unpacked. -/
def Makes (start : LiveTree) : Label → List (Role × NodeId) → Prop
  | .tuple .load, slots => 2 ≤ slots.length ∧ (∀ slot ∈ slots, slot.1 = .elts) ∧
      ∀ slot ∈ slots.getLast?, start.Plain slot.2
  | .constant _, slots | .unaryOp .minus, slots | .subscript .load, slots | .ifExp, slots =>
      ∀ slot ∈ slots, start.Plain slot.2
  | _, _ => False

/-- A slot holds what it held before, or a new node in the place of a call. -/
def Succeeds (start : LiveTree) (before after : Role × NodeId) : Prop :=
  after.1 = before.1 ∧
    (after.2 = before.2 ∨ start.label before.2 = .call ∧ start.size ≤ after.2)

section Slots

theorem succeeds_refl (slots : List (Role × NodeId)) : List.Forall₂ start.Succeeds slots slots :=
  List.forall₂_same.mpr fun _ _ => ⟨rfl, Or.inl rfl⟩

theorem Succeeds.trans {first second third : Role × NodeId} (one : start.Succeeds first second)
    (two : start.Succeeds second third) : start.Succeeds first third := by
  refine ⟨two.1.trans one.1, ?_⟩
  rcases two.2 with same | ⟨isCall, new⟩
  · rw [same]
    exact one.2
  · -- A new node is no call of the table in which all began, so the slot held the call before.
    refine Or.inr ⟨?_, new⟩
    rcases one.2 with same | ⟨-, new'⟩
    · exact same ▸ isCall
    · rw [label_of_size_le new'] at isCall
      exact nomatch isCall

theorem succeeds_trans {slots'' : List (Role × NodeId)}
    (one : List.Forall₂ start.Succeeds slots slots')
    (two : List.Forall₂ start.Succeeds slots' slots'') :
    List.Forall₂ start.Succeeds slots slots'' := by
  induction one generalizing slots'' with
  | nil => exact two
  | cons first _ ih =>
    cases two with
    | cons second rest => exact .cons (first.trans second) (ih rest)

/-- A new node in the place of a call. -/
theorem succeeds_of_swapSlot {old new : NodeId} (isCall : start.label old = .call)
    (fresh : start.size ≤ new) (swapped : swapSlot old new slots = some slots') :
    List.Forall₂ start.Succeeds slots slots' := by
  obtain ⟨before, role, after, rfl, rfl⟩ := exists_of_swapSlot swapped
  exact List.rel_append (succeeds_refl before)
    (.cons ⟨rfl, Or.inr ⟨isCall, fresh⟩⟩ (succeeds_refl after))

theorem Succeeds.plain {before after : Role × NodeId} (succeeds : start.Succeeds before after)
    (plain : start.Plain before.2) : start.Plain after.2 := by
  rcases succeeds.2 with same | ⟨-, new⟩
  · exact same ▸ plain
  · exact plain_of_new new

/-- The last slot succeeds the last one. -/
theorem exists_last_of_succeeds (succeeds : List.Forall₂ start.Succeeds slots slots')
    {slot : Role × NodeId} (last : slot ∈ slots'.getLast?) :
    ∃ before ∈ slots.getLast?, start.Succeeds before slot := by
  rw [List.getLast?_eq_head?_reverse] at last ⊢
  have reversed := List.rel_reverse succeeds
  generalize slots.reverse = before, slots'.reverse = after at reversed last
  cases reversed with
  | nil => exact absurd last (Option.not_mem_none _)
  | cons here _ =>
    obtain rfl := Option.mem_some.mp last
    exact ⟨_, rfl, here⟩

/-- **What an expansion makes stays so** when new nodes come in the place of calls. -/
theorem Makes.succeeds (makes : start.Makes label slots)
    (succeeds : List.Forall₂ start.Succeeds slots slots') : start.Makes label slots' := by
  have plain : (∀ slot ∈ slots, start.Plain slot.2) → ∀ slot ∈ slots', start.Plain slot.2 := by
    intro all slot member
    obtain ⟨before, inside, same⟩ := exists_of_forall₂ succeeds member
    exact same.plain (all before inside)
  unfold Makes at makes ⊢
  split at makes
  · obtain ⟨several, elements, last⟩ := makes
    refine ⟨succeeds.length_eq ▸ several, fun slot member => ?_, fun slot member => ?_⟩
    · obtain ⟨before, inside, same⟩ := exists_of_forall₂ succeeds member
      exact same.1.trans (elements before inside)
    · obtain ⟨before, inside, same⟩ := exists_last_of_succeeds succeeds member
      exact same.plain (last before inside)
  · exact plain makes
  · exact plain makes
  · exact plain makes
  · exact plain makes
  · exact makes.elim

/-- An expansion makes expressions, but no calls and nothing unpacked. -/
theorem Makes.kind (makes : start.Makes label slots) :
    label.family = .expression ∧ label ≠ .call ∧ label.isStarred = false := by
  unfold Makes at makes
  split at makes
  · exact ⟨rfl, nofun, rfl⟩
  · exact ⟨rfl, nofun, rfl⟩
  · exact ⟨rfl, nofun, rfl⟩
  · exact ⟨rfl, nofun, rfl⟩
  · exact ⟨rfl, nofun, rfl⟩
  · exact makes.elim

end Slots

/-- A table that has come from another one by expansions. -/
structure Expanded (start live : LiveTree) : Prop where
  size : start.size ≤ live.size
  label : ∀ id < start.size, live.label id = start.label id
  slots : ∀ id < start.size, List.Forall₂ start.Succeeds (start.slots id) (live.slots id)
  made : ∀ id < live.size, start.size ≤ id → start.Makes (live.label id) (live.slots id)

section Changing

theorem expanded_refl (start : LiveTree) : start.Expanded start :=
  ⟨Nat.le_refl _, fun _ _ => rfl, fun _ _ => succeeds_refl _,
    fun _ known new => absurd (Nat.lt_of_lt_of_le known new) (Nat.lt_irrefl _)⟩

/-- **Making a node** that an expansion makes. -/
theorem Expanded.push (expanded : start.Expanded live) (makes : start.Makes label slots) :
    start.Expanded (live.push label none slots).2 := by
  have content : ∀ id < live.size, (live.push label none slots).2.content? id = live.content? id :=
    fun id known => content?_push_old label none slots known
  refine ⟨?_, fun id known => ?_, fun id known => ?_, fun id known new => ?_⟩
  · rw [size_push]
    exact Nat.le_succ_of_le expanded.size
  · rw [label_eq, content id (Nat.lt_of_lt_of_le known expanded.size), ← label_eq]
    exact expanded.label id known
  · rw [@slots_eq (live.push label none slots).2,
      content id (Nat.lt_of_lt_of_le known expanded.size), ← slots_eq]
    exact expanded.slots id known
  · rw [size_push] at known
    rcases Nat.lt_succ_iff_lt_or_eq.mp known with old | rfl
    · rw [label_eq, slots_eq, content id old, ← label_eq, ← slots_eq]
      exact expanded.made id old new
    · rw [label_eq, slots_eq, content?_push_new]
      exact makes

/-- Changes that leave a content alone, one after the other. -/
theorem content?_foldl {change : LiveTree → NodeId → LiveTree}
    (each : ∀ live child, (change live child).content? id = live.content? id)
    (ids : List NodeId) (live : LiveTree) :
    (ids.foldl change live).content? id = live.content? id := by
  induction ids generalizing live with
  | nil => rfl
  | cons first rest ih => exact (ih _).trans (each live first)

/-- Recording parents leaves all contents alone. -/
theorem content?_index (depth : Nat) (live : LiveTree) (above id : NodeId) :
    (live.index depth above).content? id = live.content? id := by
  induction depth generalizing live above with
  | zero => rfl
  | succ depth ih =>
    have adopts : ∀ live child, (adopt above live child).content? id = live.content? id :=
      fun live child => @content?_modify live (fun entry => { entry with parent := some above })
        (fun _ => ⟨rfl, rfl⟩) child id
    exact (content?_foldl ih _ _).trans (content?_foldl adopts _ live)

/-- What a replacement does to the contents: one node gets the new child for the old one. -/
theorem exists_slots_of_replace? {old new : NodeId} (replaced : live.replace? old new = some live') :
    live'.size = live.size ∧ (∀ id, live'.label id = live.label id) ∧
      ∃ parent, swapSlot old new (live.slots parent) = some (live'.slots parent) ∧
        ∀ id, id ≠ parent → live'.slots id = live.slots id := by
  have size := (replace?_leaves replaced).1
  obtain ⟨parent, slots, entry, -, swapped, -, rfl⟩ := exists_of_replace? replaced
  have others : ∀ id, id ≠ parent →
      ((live.placed parent new slots entry).index live.size new).content? id = live.content? id :=
    fun id other => (content?_index ..).trans (content?_placed_other other)
  have known : parent < live.size := by
    obtain ⟨before, role, after, same, -⟩ := exists_of_swapSlot swapped
    have member : (role, old) ∈ live.slots parent :=
      same ▸ List.mem_append_right _ List.mem_cons_self
    exact lt_size_of_slot member
  have here : ((live.placed parent new slots entry).index live.size new).content? parent =
      some (live.label parent, slots) :=
    (content?_index ..).trans (content?_placed (content?_of_lt known))
  refine ⟨size, fun id => ?_, parent, ?_, fun id other => ?_⟩
  · by_cases same : id = parent
    · rw [same, label_eq, here]
      rfl
    · rw [label_eq, others id same, ← label_eq]
  · rw [swapped, @slots_eq ((live.placed parent new slots entry).index live.size new), here]
    rfl
  · rw [slots_eq, others id other, ← slots_eq]

/-- No new node is a call. -/
theorem Expanded.label_of_call (expanded : start.Expanded live) (isCall : live.label id = .call) :
    start.label id = .call := by
  have known : id < live.size := lt_size_of_label (by simp [isCall])
  rcases Nat.lt_or_ge id start.size with old | new
  · exact (expanded.label id old).symm.trans isCall
  · exact absurd isCall (Makes.kind (expanded.made id known new)).2.1

/-- **Putting a new node in the place of a call.** -/
theorem Expanded.replace? (expanded : start.Expanded live) {old new : NodeId}
    (isCall : start.label old = .call) (fresh : start.size ≤ new)
    (replaced : live.replace? old new = some live') : start.Expanded live' := by
  obtain ⟨size, label, parent, swapped, others⟩ := exists_slots_of_replace? replaced
  have succeeds : ∀ id, List.Forall₂ start.Succeeds (live.slots id) (live'.slots id) := by
    intro id
    by_cases same : id = parent
    · exact same ▸ succeeds_of_swapSlot isCall fresh swapped
    · rw [others id same]
      exact succeeds_refl _
  refine ⟨size ▸ expanded.size, fun id known => ?_, fun id known => ?_, fun id known new => ?_⟩
  · rw [label id, expanded.label id known]
  · exact succeeds_trans (expanded.slots id known) (succeeds id)
  · rw [label id]
    exact (expanded.made id (size ▸ known) new).succeeds (succeeds id)

end Changing

section Looking

/-- A child of a node, and what is in its place after expansions: the same node, or a new one where
a call was. -/
def Inherits (start live : LiveTree) (before after : NumberedTree) : Prop :=
  (after.tag = before.tag ∧ after.label = before.label ∧ start.Reads before ∧ live.Reads after) ∨
    (before.label = .call ∧ start.size ≤ after.tag ∧ after.label = live.label after.tag ∧
      after.tag < live.size)

variable (expanded : start.Expanded live)

include expanded

/-- What is no expression is a node of the table in which all began, and has its label from there. -/
theorem Expanded.old_of_label {label : Label} (here : live.label id = label)
    (other : label.family ≠ .expression) (node : label ≠ .module) :
    id < start.size ∧ start.label id = label := by
  have known : id < live.size := lt_size_of_label (here ▸ node)
  rcases Nat.lt_or_ge id start.size with old | new
  · exact ⟨old, (expanded.label id old).symm.trans here⟩
  · exact absurd (here ▸ Makes.kind (expanded.made id known new)).1 other

/-- A node of the table in which all began stands where it stood there. -/
theorem Expanded.slot_of_old {above : NodeId} {role : Role} (known : above < start.size)
    (old : id < start.size) (member : (role, id) ∈ live.slots above) :
    (role, id) ∈ start.slots above := by
  obtain ⟨⟨role', before⟩, inside, same, equal | ⟨-, new⟩⟩ :=
    exists_of_forall₂ (expanded.slots above known) member
  · dsimp only at same equal
    exact same ▸ equal ▸ inside
  · exact absurd old (Nat.not_lt_of_le new)

/-- **The children of an old node**, before and after expansions. -/
theorem Expanded.forall₂_children {node other : NumberedTree} (reads : start.Reads node)
    (readsOther : live.Reads other) (tag : other.tag = node.tag) :
    List.Forall₂ (fun one two => one.1 = two.1 ∧ Inherits start live one.2 two.2) node.children
      other.children := by
  have known : node.tag < start.size := reads.lt_size (tag_mem_tags node)
  have slots := expanded.slots node.tag known
  rw [reads.slots, ← tag, readsOther.slots, slotsOf, slotsOf, List.forall₂_map_left_iff,
    List.forall₂_map_right_iff, List.forall₂_iff_get] at slots
  rw [List.forall₂_iff_get]
  refine ⟨slots.1, fun index bound bound' => ?_⟩
  obtain ⟨sameRole, place⟩ := slots.2 index bound bound'
  have readsChild := reads.of_mem (child_mem_preorder (List.get_mem node.children ⟨index, bound⟩))
  have readsAfter :=
    readsOther.of_mem (child_mem_preorder (List.get_mem other.children ⟨index, bound'⟩))
  refine ⟨sameRole.symm, place.imp (fun same => ?_) fun ⟨isCall, new⟩ => ?_⟩
  · have old := readsChild.lt_size (tag_mem_tags _)
    refine ⟨same, ?_, readsChild, readsAfter⟩
    exact readsAfter.label.symm.trans ((congrArg live.label same).trans
      ((expanded.label _ old).trans readsChild.label))
  · exact ⟨readsChild.label.symm.trans isCall, new, readsAfter.label.symm,
      readsAfter.lt_size (tag_mem_tags _)⟩

/-- What is no call stays where it stood. -/
theorem Expanded.slot_of_slot {above : NodeId} {role : Role} (known : above < start.size)
    (member : (role, id) ∈ start.slots above) (noCall : start.label id ≠ .call) :
    (role, id) ∈ live.slots above := by
  have succeeds := expanded.slots above known
  obtain ⟨index, bound, same⟩ := List.getElem_of_mem member
  have bound' : index < (live.slots above).length := succeeds.length_eq ▸ bound
  obtain ⟨sameRole, equal | ⟨isCall, -⟩⟩ := succeeds.get bound bound'
  · rw [List.get_eq_getElem, List.get_eq_getElem, same] at sameRole equal
    have here : (live.slots above)[index] = (role, id) := Prod.ext sameRole equal
    exact here ▸ List.getElem_mem bound'
  · rw [List.get_eq_getElem, same] at isCall
    exact absurd isCall noCall

/-- What is not unpacked now was not unpacked before. -/
theorem Expanded.plain_of_label (plain : (live.label id).isStarred = false) : start.Plain id := by
  rcases Nat.lt_or_ge id start.size with old | new
  · rwa [expanded.label id old] at plain
  · exact plain_of_new new

/-- What is unpacked was unpacked before. -/
theorem Expanded.old_of_starred (starred : (live.label id).isStarred = true) :
    id < start.size ∧ live.label id = start.label id := by
  have known : id < live.size := lt_size_of_label fun same => by
    rw [same] at starred
    exact nomatch starred
  rcases Nat.lt_or_ge id start.size with old | new
  · exact ⟨old, expanded.label id old⟩
  · rw [(Makes.kind (expanded.made id known new)).2.2] at starred
    exact nomatch starred

end Looking

end LiveTree

end IfChains
