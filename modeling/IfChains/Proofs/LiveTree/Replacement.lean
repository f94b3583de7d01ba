/-
**Replacing a node of a tree.**

* `replaced_of_replace?`: what a table records after a tree was put into a slot;
* `exists_replace?`: if a table reads as a context filled with a node and records its parents,
  putting another node in the place of that one makes it read as the context filled with the new
  node, and record the parents of that;
* `replace?_leaves`: no other node changes its position.
-/

import IfChains.Proofs.LiveTree.Parents

namespace IfChains

open IfChains.Tree

namespace LiveTree

variable {live live' : LiveTree}

/-- What is in the hole of a context may have its parents in another table, if the context stays. -/
theorem Linked.fill {context : Context NodeId} {first second : NumberedTree}
    (linked : live.Linked (Context.fill context first))
    (same : ∀ id ∈ Context.tags context, live'.parent? id = live.parent? id)
    (distinct : (Context.tags context).Nodup) (tag : second.tag = first.tag)
    (hole : live'.parent? first.tag = live.parent? first.tag) (inside : live'.Linked second) :
    live'.Linked (Context.fill context second) := by
  induction context generalizing first second with
  | nil => exact inside
  | cons frame outer ih =>
    have split : Context.tags (frame :: outer) = frame.tags ++ Context.tags outer := rfl
    rw [split, List.nodup_append'] at distinct
    have parent : live'.parent? second.tag = some frame.tag := by
      rw [tag, hole, linked.parent?_hole]
    have framed : live.Linked (frame.fill first) := linked.of_mem (mem_preorder_fill outer _)
    have here : ∀ id ∈ frame.tags, live'.parent? id = live.parent? id :=
      fun id member => same id (split ▸ List.mem_append_left _ member)
    refine @ih (frame.fill first) (frame.fill second) linked ?_ distinct.2.1 rfl ?_ ?_
    · exact fun id member => same id (split ▸ List.mem_append_right _ member)
    · exact here frame.tag List.mem_cons_self
    · exact framed.frame (fun id member _ => here id member) distinct.1 parent inside

/-- A new node takes the first slot of the old one, and the other slots stay. -/
theorem exists_first_of_swapSlot {old new : NodeId} {slots slots' : List (Role × NodeId)}
    (swapped : swapSlot old new slots = some slots') : ∃ before role after,
      (∀ other ∈ before, other.2 ≠ old) ∧ slots = before ++ (role, old) :: after ∧
        slots' = before ++ (role, new) :: after := by
  induction slots generalizing slots' with
  | nil => exact nomatch swapped
  | cons slot rest ih =>
    obtain ⟨role, id⟩ := slot
    rw [swapSlot] at swapped
    split at swapped
    · subst id
      exact ⟨[], role, rest, List.forall_mem_nil _, rfl, (Option.some.inj swapped).symm⟩
    · rename_i other
      obtain ⟨later, found, rfl⟩ := Option.map_eq_some_iff.mp swapped
      obtain ⟨before, role', after, absent, rfl, rfl⟩ := ih found
      exact ⟨(role, id) :: before, role', after, List.forall_mem_cons.mpr ⟨other, absent⟩, rfl, rfl⟩

/-- A new node takes a slot of the old one. -/
theorem exists_of_swapSlot {old new : NodeId} {slots slots' : List (Role × NodeId)}
    (swapped : swapSlot old new slots = some slots') : ∃ before role after,
      slots = before ++ (role, old) :: after ∧ slots' = before ++ (role, new) :: after := by
  obtain ⟨before, role, after, -, both⟩ := exists_first_of_swapSlot swapped
  exact ⟨before, role, after, both⟩

/-- The new node takes the slot of the old one. -/
theorem swapSlot_slotsOf {old new : NumberedTree} {before after : Forest NodeId} {role : Role}
    (absent : old.tag ∉ tagsIn before) :
    swapSlot old.tag new.tag (slotsOf (before ++ (role, old) :: after)) =
      some (slotsOf (before ++ (role, new) :: after)) := by
  induction before with
  | nil => simp [slotsOf, swapSlot]
  | cons child rest ih =>
    rw [tagsIn_cons, List.mem_append, not_or] at absent
    have different : child.2.tag ≠ old.tag := fun same => absent.1 (same ▸ tag_mem_tags child.2)
    have later := ih absent.2
    simp only [slotsOf, List.map_append, List.map_cons] at later
    simp [slotsOf, swapSlot, different, later]

/-- Changing a node leaves the contents of the others alone. -/
theorem content?_modify_other {id other : NodeId} (change : Entry → Entry)
    (different : id ≠ other) :
    (live.modify id change).content? other = live.content? other := by
  rw [content?, find?_modify_other live change different, content?]

/-- Changing a node leaves the parents of the others alone. -/
theorem parent?_modify_other {id other : NodeId} (change : Entry → Entry) (different : id ≠ other) :
    (live.modify id change).parent? other = live.parent? other := by
  rw [parent?, find?_modify_other live change different, parent?]

/-- What is found at a node that was changed. -/
theorem find?_modify (id : NodeId) (change : Entry → Entry) :
    (live.modify id change).find? id = (live.find? id).map change := by
  simp [modify, find?, Array.getElem?_modify]

/-- A change of a node that keeps its label and its children leaves all contents alone. -/
theorem content?_modify {change : Entry → Entry}
    (keeps : ∀ entry, (change entry).label = entry.label ∧ (change entry).slots = entry.slots)
    (id other : NodeId) : (live.modify id change).content? other = live.content? other := by
  by_cases same : id = other
  · subst same
    rw [content?, find?_modify, content?, Option.map_map]
    congr 1
    funext entry
    simp [keeps entry]
  · exact content?_modify_other change same

/-- A change of a node that keeps its parent leaves all parents alone. -/
theorem parent?_modify {change : Entry → Entry}
    (keeps : ∀ entry, (change entry).parent = entry.parent) (id other : NodeId) :
    (live.modify id change).parent? other = live.parent? other := by
  by_cases same : id = other
  · subst same
    rw [parent?, find?_modify, parent?]
    cases live.find? id with
    | none => rfl
    | some entry => exact keeps entry
  · exact parent?_modify_other change same

/-- The table in which a node has other children, and another node has it for its parent and takes
over a position. -/
def placed (live : LiveTree) (parent new : NodeId) (slots : List (Role × NodeId)) (old : Entry) :
    LiveTree :=
  (live.modify parent fun entry => { entry with slots := slots }).modify new fun entry =>
    { entry with position := inheritedPosition old entry, parent := some parent }

section Placing

variable {parent new : NodeId} {slots : List (Role × NodeId)} {old : Entry}

@[simp]
theorem size_placed : (live.placed parent new slots old).size = live.size :=
  (size_modify ..).trans (size_modify ..)

/-- The contents of the other nodes stay. -/
theorem content?_placed_other {id : NodeId} (other : id ≠ parent) :
    (live.placed parent new slots old).content? id = live.content? id := by
  rw [placed, content?_modify, content?_modify_other _ (Ne.symm other)]
  exact fun _ => ⟨rfl, rfl⟩

/-- The node has its other children. -/
theorem content?_placed {label : Label} {before : List (Role × NodeId)}
    (held : live.content? parent = some (label, before)) :
    (live.placed parent new slots old).content? parent = some (label, slots) := by
  obtain ⟨entry, known, same⟩ := Option.map_eq_some_iff.mp held
  rw [placed, content?_modify, content?, find?_modify, known, Option.map_some, Option.map_some,
    (Prod.mk.inj same).1]
  exact fun _ => ⟨rfl, rfl⟩

/-- The other nodes keep their parents. -/
theorem parent?_placed_other {id : NodeId} (other : id ≠ new) :
    (live.placed parent new slots old).parent? id = live.parent? id := by
  rw [placed, parent?_modify_other _ (Ne.symm other), parent?_modify]
  exact fun _ => rfl

/-- The new node has its parent. -/
theorem parent?_placed (known : new < live.size) :
    (live.placed parent new slots old).parent? new = some parent := by
  have bound : new < (live.modify parent fun entry => { entry with slots := slots }).size := by
    rwa [size_modify]
  have found := Array.getElem?_eq_getElem bound
  rw [parent?, placed, find?_modify, find?, found]
  rfl

/-- What a replacement comes to. -/
theorem replace?_eq {id : NodeId} (above : live.parent? id = some parent)
    (swapped : swapSlot id new (live.slots parent) = some slots)
    (found : live.find? id = some old) :
    live.replace? id new = some ((live.placed parent new slots old).index live.size new) := by
  have size : (live.placed parent new slots old).size = live.size := size_placed
  rw [replace?, above, Option.bind_eq_bind, Option.bind_some, swapped, Option.bind_eq_bind,
    Option.bind_some, found, ← size]
  rfl

/-- What a replacement has come to. -/
theorem exists_of_replace? {id : NodeId} (replaced : live.replace? id new = some live') :
    ∃ parent slots old, live.parent? id = some parent ∧
      swapSlot id new (live.slots parent) = some slots ∧ live.find? id = some old ∧
      live' = (live.placed parent new slots old).index live.size new := by
  obtain ⟨parent, above, rest⟩ := Option.bind_eq_some_iff.mp replaced
  obtain ⟨slots, swapped, rest⟩ := Option.bind_eq_some_iff.mp rest
  obtain ⟨old, found, -⟩ := Option.bind_eq_some_iff.mp rest
  exact ⟨parent, slots, old, above, swapped, found,
    Option.some.inj (replaced.symm.trans (replace?_eq above swapped found))⟩

end Placing

/-- A tree has been put into a slot of a node, which does not lie in the tree, and the parents
beneath the slot have been recorded. -/
structure Replaced (live live' : LiveTree) (parent : NodeId) (slots : List (Role × NodeId))
    (new : NumberedTree) : Prop where
  size : live'.size = live.size
  content : live'.content? parent = some (live.label parent, slots)
  others : ∀ id, id ≠ parent → live'.content? id = live.content? id
  hole : live'.parent? new.tag = some parent
  linked : live'.Linked new
  outside : ∀ id, id ∉ new.tags → live'.parent? id = live.parent? id

/-- **What is there after a tree was placed and its parents recorded.** -/
theorem replaced_index {parent : NodeId} {slots : List (Role × NodeId)} {new : NumberedTree}
    (old : Entry) (known : parent < live.size) (reads : live.Reads new)
    (distinct : new.tags.Nodup) (apart : parent ∉ new.tags) :
    Replaced live ((live.placed parent new.tag slots old).index live.size new.tag) parent slots
      new := by
  have content : ∀ id, id ≠ parent →
      (live.placed parent new.tag slots old).content? id = live.content? id :=
    fun id other => content?_placed_other other
  have readsPlaced : (live.placed parent new.tag slots old).Reads new :=
    reads.congr fun id member => content id fun same => apart (same ▸ member)
  obtain ⟨recorded, linked⟩ := readsPlaced.index distinct (reads.size_le distinct)
  refine ⟨recorded.size.trans size_placed, ?_, fun id other => ?_, ?_, linked, fun id away => ?_⟩
  · rw [recorded.content, content?_placed (content?_of_lt known)]
  · rw [recorded.content, content id other]
  · rw [recorded.parent, parent?_placed (reads.lt_size (tag_mem_tags new))]
    obtain ⟨tag, label, children⟩ := new
    rw [tags_node, List.nodup_cons] at distinct
    exact distinct.1
  · rw [recorded.parent _ fun member => away (mem_tags_of_children member)]
    exact parent?_placed_other fun same => away (same ▸ tag_mem_tags new)

/-- **What a replacement has led to.** -/
theorem replaced_of_replace? {old parent : NodeId} {new : NumberedTree}
    (replaced : live.replace? old new.tag = some live') (above : live.parent? old = some parent)
    (known : parent < live.size) (reads : live.Reads new) (distinct : new.tags.Nodup)
    (apart : parent ∉ new.tags) :
    ∃ slots, swapSlot old new.tag (live.slots parent) = some slots ∧
      Replaced live live' parent slots new := by
  obtain ⟨parent', slots, entry, above', swapped, -, rfl⟩ := exists_of_replace? replaced
  obtain rfl : parent' = parent := Option.some.inj (above'.symm.trans above)
  exact ⟨slots, swapped, replaced_index entry known reads distinct apart⟩

/-- A frame with a new node in its hole, after that was placed there. -/
theorem Replaced.reads_frame {frame : Frame NodeId} {old new : NumberedTree}
    (replaced : Replaced live live' frame.tag (slotsOf (frame.fill new).children) new)
    (reads : live.Reads (frame.fill old)) (distinct : frame.tags.Nodup)
    (apart : frame.tag ∉ new.tags) (readsNew : live.Reads new) : live'.Reads (frame.fill new) := by
  have inside : ∀ tree : NumberedTree, live.Reads tree → frame.tag ∉ tree.tags →
      live'.Reads tree :=
    fun tree reads absent => reads.congr fun id member =>
      replaced.others id fun same => absent (same ▸ member)
  have absent : ∀ child ∈ frame.before ++ frame.after, frame.tag ∉ child.2.tags := by
    intro child member deeper
    refine (List.nodup_cons.mp distinct).1 ?_
    rw [← tagsIn_append]
    exact mem_tagsIn.mpr ⟨child, member, deeper⟩
  have label : live.label frame.tag = frame.label := reads.label
  obtain ⟨-, beneath⟩ := reads_node.mp reads
  refine reads_node.mpr ⟨label ▸ replaced.content, fun child member => ?_⟩
  rcases List.mem_append.mp member with before | after
  · exact inside _ (beneath child (List.mem_append_left _ before))
      (absent child (List.mem_append_left _ before))
  · rcases List.mem_cons.mp after with rfl | after
    · exact inside _ readsNew apart
    · exact inside _ (beneath child (List.mem_append_right _ (List.mem_cons_of_mem _ after)))
        (absent child (List.mem_append_right _ after))

/-- **Putting a node in the place of another one.** -/
theorem exists_replace? {frame : Frame NodeId} {outer : Context NodeId} {old new : NumberedTree}
    (reads : live.Reads (Context.fill (frame :: outer) old))
    (linked : live.Linked (Context.fill (frame :: outer) old))
    (distinct : (Context.fill (frame :: outer) old).tags.Nodup)
    (readsNew : live.Reads new) (distinctNew : (Context.fill (frame :: outer) new).tags.Nodup) :
    ∃ live', live.replace? old.tag new.tag = some live' ∧ live'.size = live.size ∧
      live'.Reads (Context.fill (frame :: outer) new) ∧
      live'.Linked (Context.fill (frame :: outer) new) ∧
      (∀ id, id ≠ frame.tag → live'.content? id = live.content? id) ∧
      ∀ id, id ∉ new.tags → live'.parent? id = live.parent? id := by
  obtain ⟨around, -, apartOld⟩ := nodup_tags_fill.mp distinct
  obtain ⟨-, distinctInside, apartNew⟩ := nodup_tags_fill.mp distinctNew
  have tags_eq : Context.tags (frame :: outer) = frame.tags ++ Context.tags outer := rfl
  rw [tags_eq, List.disjoint_append_left] at apartOld apartNew
  rw [tags_eq, List.nodup_append'] at around
  obtain ⟨distinctFrame, distinctOuter, separate⟩ := around
  have absent : frame.tag ∉ new.tags := apartNew.1 List.mem_cons_self
  -- What the steps of the replacement find.
  have framed : live.Reads (frame.fill old) := reads.of_mem (mem_preorder_fill outer _)
  have readsOld : live.Reads old := reads.of_mem (mem_preorder_fill (frame :: outer) old)
  have held : live.slots frame.tag = slotsOf (frame.fill old).children := framed.slots
  have swapped : swapSlot old.tag new.tag (live.slots frame.tag) =
      some (slotsOf (frame.fill new).children) := by
    rw [held]
    refine swapSlot_slotsOf fun member => apartOld.1 ?_ (tag_mem_tags old)
    exact List.mem_cons_of_mem _ (List.mem_append_left _ member)
  obtain ⟨entry, found, -⟩ := Option.map_eq_some_iff.mp (readsOld old (self_mem_preorder old))
  have replaced : Replaced live _ frame.tag (slotsOf (frame.fill new).children) new :=
    replaced_index entry (framed.lt_size (tag_mem_tags (frame.fill old))) readsNew distinctInside
      absent
  refine ⟨_, replace?_eq linked.parent?_hole swapped found, replaced.size, ?_, ?_,
    replaced.others, replaced.outside⟩
  · refine @Reads.fill live _ outer (frame.fill old) _ reads (fun id member => ?_) rfl
      (replaced.reads_frame framed distinctFrame absent readsNew)
    exact replaced.others id fun same => separate List.mem_cons_self (same ▸ member)
  · have inFrame : ∀ id ∈ frame.tags, _ = live.parent? id :=
      fun id member => replaced.outside id (apartNew.1 member)
    have framedLinks : live.Linked (frame.fill old) := linked.of_mem (mem_preorder_fill outer _)
    exact @Linked.fill live _ outer (frame.fill old) _ linked
      (fun id member => replaced.outside id (apartNew.2 member)) distinctOuter rfl
      (inFrame frame.tag List.mem_cons_self)
      (framedLinks.frame (fun id member _ => inFrame id member) distinctFrame replaced.hole
        replaced.linked)

section Positions

/-- Making a node without a position leaves all positions alone. -/
theorem position?_push (id : NodeId) (label : Label) (slots : List (Role × NodeId)) :
    (live.push label none slots).2.position? id = live.position? id := by
  simp only [position?, find?, push, Array.getElem?_push]
  split
  · subst id
    simp
  · rfl

/-- A change of a node that keeps its position leaves all positions alone. -/
theorem position?_modify {change : Entry → Entry}
    (keeps : ∀ entry, (change entry).position = entry.position) (id other : NodeId) :
    (live.modify id change).position? other = live.position? other := by
  by_cases same : id = other
  · subst same
    rw [position?, find?_modify, position?]
    cases live.find? id with
    | none => rfl
    | some entry => exact keeps entry
  · rw [position?, find?_modify_other live change same, position?]

/-- Neither the number of nodes nor a position has changed. -/
def SamePositions (live live' : LiveTree) : Prop :=
  live'.size = live.size ∧ ∀ id, live'.position? id = live.position? id

theorem SamePositions.trans {live'' : LiveTree} (first : SamePositions live live')
    (second : SamePositions live' live'') : SamePositions live live'' :=
  ⟨second.1.trans first.1, fun id => (second.2 id).trans (first.2 id)⟩

/-- Changes made one after the other. -/
theorem samePositions_foldl {change : LiveTree → NodeId → LiveTree}
    (each : ∀ live id, SamePositions live (change live id)) (ids : List NodeId) (live : LiveTree) :
    SamePositions live (ids.foldl change live) := by
  induction ids generalizing live with
  | nil => exact ⟨rfl, fun _ => rfl⟩
  | cons first rest ih => exact (each live first).trans (ih _)

/-- Recording parents makes no node and leaves all positions alone. -/
theorem samePositions_index (depth : Nat) (live : LiveTree) (id : NodeId) :
    SamePositions live (live.index depth id) := by
  induction depth generalizing live id with
  | zero => exact ⟨rfl, fun _ => rfl⟩
  | succ depth ih =>
    have adopts : ∀ live child, SamePositions live (adopt id live child) := fun live child =>
      ⟨size_modify .., @position?_modify live (fun entry => { entry with parent := some id })
        (fun _ => rfl) child⟩
    exact (samePositions_foldl adopts _ live).trans (samePositions_foldl ih _ _)

/-- **Putting a node in the place of another one** makes no node and changes no position but that
of the new one. -/
theorem replace?_leaves {old new : NodeId} (replaced : live.replace? old new = some live') :
    live'.size = live.size ∧
      ∀ other, other ≠ new → live'.position? other = live.position? other := by
  obtain ⟨parent, slots, entry, -, -, -, rfl⟩ := exists_of_replace? replaced
  obtain ⟨size, position⟩ :=
    samePositions_index live.size (live.placed parent new slots entry) new
  refine ⟨size.trans size_placed, fun other different => (position other).trans ?_⟩
  rw [placed, position?, find?_modify_other _ _ (Ne.symm different), ← position?]
  exact @position?_modify live (fun entry => { entry with slots := slots }) (fun _ => rfl) _ _

end Positions

end LiveTree

end IfChains
