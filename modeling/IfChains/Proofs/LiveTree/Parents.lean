/-
**Recorded parents.**

The parents that a table records for the nodes of a tree lead to the root. `index` records them,
and leaves everything else alone.

* `Reads.index`: after `index`, the recorded parents of a tree are its own;
* `contains_iff`: climbing along recorded parents tells whether a node lies beneath another one.
-/

import IfChains.Proofs.LiveTree.Reading

namespace IfChains

open IfChains.Tree

namespace LiveTree

variable {live live' : LiveTree}

/-- The recorded parents of the nodes beneath the root are their parents in the tree. -/
def Linked (live : LiveTree) (tree : NumberedTree) : Prop :=
  ∀ node ∈ tree.preorder, ∀ child ∈ node.children, live.parent? child.2.tag = some node.tag

section Linking

/-- The recorded parents beneath a node are those of its children and those beneath them. -/
theorem linked_node {tag : NodeId} {label : Label} {children : Forest NodeId} :
    live.Linked (.node tag label children) ↔
      ∀ child ∈ children, live.parent? child.2.tag = some tag ∧ live.Linked child.2 := by
  constructor
  · refine fun linked child member => ⟨linked _ (self_mem_preorder _) child member, ?_⟩
    refine fun node inside => linked node ?_
    exact mem_preorder_trans inside (child_mem_preorder member)
  · intro each node member
    rcases mem_preorder_node.mp member with rfl | ⟨child, inside, deeper⟩
    · exact fun child inside => (each child inside).1
    · exact (each child inside).2 node deeper

/-- The recorded parents of the nodes of a node. -/
theorem Linked.of_mem {inner outer : NumberedTree} (linked : live.Linked outer)
    (member : inner ∈ outer.preorder) : live.Linked inner :=
  fun node inside => linked node (mem_preorder_trans inside member)

/-- A node in the hole of a frame has the frame's node for its parent. -/
theorem Linked.parent?_hole {frame : Frame NodeId} {outer : Context NodeId} {tree : NumberedTree}
    (linked : live.Linked (Context.fill (frame :: outer) tree)) :
    live.parent? tree.tag = some frame.tag := by
  have inside : (frame.role, tree) ∈ (frame.fill tree).children :=
    List.mem_append_right _ List.mem_cons_self
  exact linked _ (mem_preorder_fill outer (frame.fill tree)) _ inside

/-- The recorded parents of a tree depend on the nodes beneath its root. -/
theorem Linked.congr {tree : NumberedTree} (linked : live.Linked tree)
    (same : ∀ id ∈ tagsIn tree.children, live'.parent? id = live.parent? id) :
    live'.Linked tree := by
  intro node member child inside
  rw [← linked node member child inside]
  refine same _ (mem_tagsIn.mpr ?_)
  obtain ⟨tag, label, children⟩ := tree
  rcases mem_preorder_node.mp member with rfl | ⟨sibling, beneath, deeper⟩
  · exact ⟨child, inside, tag_mem_tags child.2⟩
  · have below := mem_preorder_trans (child_mem_preorder inside) deeper
    exact ⟨sibling, beneath, List.mem_map_of_mem below⟩

/-- What is in the hole of a frame may have its parents in another table, if the frame stays. -/
theorem Linked.frame {frame : Frame NodeId} {first second : NumberedTree}
    (linked : live.Linked (frame.fill first))
    (same : ∀ id ∈ frame.tags, id ≠ frame.tag → live'.parent? id = live.parent? id)
    (distinct : frame.tags.Nodup) (hole : live'.parent? second.tag = some frame.tag)
    (inside : live'.Linked second) : live'.Linked (frame.fill second) := by
  have sibling : ∀ child ∈ frame.before ++ frame.after,
      live'.parent? child.2.tag = some frame.tag ∧ live'.Linked child.2 := by
    intro child member
    have old : child ∈ frame.before ++ (frame.role, first) :: frame.after := by
      rcases List.mem_append.mp member with before | after
      · exact List.mem_append_left _ before
      · exact List.mem_append_right _ (List.mem_cons_of_mem _ after)
    have kept : ∀ id ∈ child.2.tags, live'.parent? id = live.parent? id := by
      intro id deeper
      have member' : id ∈ tagsIn frame.before ++ tagsIn frame.after := by
        rw [← tagsIn_append]
        exact mem_tagsIn.mpr ⟨child, member, deeper⟩
      refine same id (List.mem_cons_of_mem _ member') ?_
      rintro rfl
      exact (List.nodup_cons.mp distinct).1 member'
    obtain ⟨parent, beneath⟩ := linked_node.mp linked child old
    refine ⟨(kept _ (tag_mem_tags _)).trans parent, beneath.congr fun id deeper => kept id ?_⟩
    obtain ⟨role, tag, label, children⟩ := child
    rw [tags_node]
    exact List.mem_cons_of_mem _ deeper
  refine linked_node.mpr fun child member => ?_
  rcases List.mem_append.mp member with before | after
  · exact sibling child (List.mem_append_left _ before)
  · rcases List.mem_cons.mp after with rfl | after
    · exact ⟨hole, inside⟩
    · exact sibling child (List.mem_append_right _ after)

end Linking

section Recording

/-- Nothing but the recorded parents of some nodes has changed. -/
structure Recorded (live live' : LiveTree) (ids : List NodeId) : Prop where
  size : live'.size = live.size
  content : ∀ id, live'.content? id = live.content? id
  parent : ∀ id, id ∉ ids → live'.parent? id = live.parent? id

theorem Recorded.refl (live : LiveTree) : Recorded live live [] :=
  ⟨rfl, fun _ => rfl, fun _ _ => rfl⟩

theorem Recorded.trans {live'' : LiveTree} {first second : List NodeId}
    (one : Recorded live live' first) (two : Recorded live' live'' second) :
    Recorded live live'' (first ++ second) := by
  refine ⟨two.size.trans one.size, fun id => (two.content id).trans (one.content id), ?_⟩
  intro id outside
  rw [List.mem_append, not_or] at outside
  exact (two.parent id outside.2).trans (one.parent id outside.1)

theorem Recorded.mono {first second : List NodeId} (recorded : Recorded live live' first)
    (subset : first ⊆ second) : Recorded live live' second :=
  ⟨recorded.size, recorded.content, fun id outside =>
    recorded.parent id fun member => outside (subset member)⟩

/-- What is read does not depend on recorded parents. -/
theorem Recorded.reads {ids : List NodeId} (recorded : Recorded live live' ids)
    {tree : NumberedTree} (reads : live.Reads tree) : live'.Reads tree :=
  reads.congr fun id _ => recorded.content id

/-- Recording a parent. -/
theorem recorded_adopt (parent id : NodeId) : Recorded live (live.adopt parent id) [id] := by
  refine ⟨size_modify .., fun other => ?_, fun other outside => ?_⟩
  · simp only [content?, find?, adopt, modify, Array.getElem?_modify]
    split
    · cases live.entries[other]? <;> rfl
    · rfl
  · have different : id ≠ other := fun same => outside (List.mem_singleton.mpr same.symm)
    rw [parent?, adopt, find?_modify_other _ _ different, parent?]

/-- The parent that was recorded. -/
theorem parent?_adopt {parent id : NodeId} (known : id < live.size) :
    (live.adopt parent id).parent? id = some parent := by
  have bound : id < live.entries.size := known
  simp only [parent?, find?, adopt, modify, Array.getElem?_modify, if_true,
    Array.getElem?_eq_getElem bound]
  rfl

/-- Recording the parent of several nodes. -/
theorem recorded_foldl_adopt (parent : NodeId) (ids : List NodeId) :
    Recorded live (ids.foldl (adopt parent) live) ids ∧
      ∀ id ∈ ids, id < live.size → (ids.foldl (adopt parent) live).parent? id = some parent := by
  induction ids generalizing live with
  | nil => exact ⟨.refl live, fun id member => nomatch member⟩
  | cons first rest ih =>
    obtain ⟨recorded, parents⟩ := @ih (live.adopt parent first)
    have one : Recorded live (live.adopt parent first) [first] := recorded_adopt parent first
    refine ⟨one.trans recorded, fun id member known => ?_⟩
    have known' : id < (live.adopt parent first).size := by rwa [one.size]
    by_cases later : id ∈ rest
    · exact parents id later known'
    · obtain rfl := (List.mem_cons.mp member).resolve_right later
      exact (recorded.parent id later).trans (parent?_adopt known)

/-- Recording parents beneath several trees, one tree after the other. -/
theorem recorded_foldl_index {depth : Nat} {trees : List NumberedTree}
    (each : ∀ tree ∈ trees, ∀ live : LiveTree, live.Reads tree →
      Recorded live (live.index depth tree.tag) (tagsIn tree.children) ∧
        (live.index depth tree.tag).Linked tree)
    (reads : ∀ tree ∈ trees, live.Reads tree) (distinct : (trees.flatMap Tree.tags).Nodup) :
    Recorded live ((trees.map Tree.tag).foldl (index depth) live)
        (trees.flatMap fun tree => tagsIn tree.children) ∧
      ∀ tree ∈ trees, ((trees.map Tree.tag).foldl (index depth) live).Linked tree := by
  induction trees generalizing live with
  | nil => exact ⟨.refl live, fun tree member => nomatch member⟩
  | cons first rest ih =>
    rw [List.flatMap_cons, List.nodup_append'] at distinct
    obtain ⟨-, distinct, apart⟩ := distinct
    obtain ⟨recorded, linked⟩ := each first List.mem_cons_self live (reads first List.mem_cons_self)
    obtain ⟨others, linked'⟩ := @ih (live.index depth first.tag)
      (fun tree member => each tree (List.mem_cons_of_mem _ member))
      (fun tree member => recorded.reads (reads tree (List.mem_cons_of_mem _ member))) distinct
    refine ⟨recorded.trans others, fun tree member => ?_⟩
    rcases List.mem_cons.mp member with rfl | later
    · refine linked.congr fun id inside => others.parent id fun elsewhere => ?_
      obtain ⟨other, among, beneath⟩ := List.mem_flatMap.mp elsewhere
      refine apart (mem_tags_of_children inside) ?_
      exact List.mem_flatMap.mpr ⟨other, among, mem_tags_of_children beneath⟩
    · exact linked' tree later

/-- **`index` records the parents of a tree**, and leaves everything else alone. -/
theorem Reads.index {tree : NumberedTree} (reads : live.Reads tree) (distinct : tree.tags.Nodup)
    {depth : Nat} (deep : tree.size ≤ depth) :
    Recorded live (live.index depth tree.tag) (tagsIn tree.children) ∧
      (live.index depth tree.tag).Linked tree := by
  induction tree using Tree.induction generalizing live depth with
  | node tag label children ih =>
    obtain ⟨depth, rfl⟩ : ∃ rest, depth = rest + 1 :=
      Nat.exists_eq_add_one.mpr (by rw [Tree.size] at deep; omega)
    rw [tags_node, List.nodup_cons] at distinct
    obtain ⟨fresh, distinct⟩ := distinct
    obtain ⟨-, beneath⟩ := reads_node.mp reads
    have slots : (live.slots tag).map Prod.snd = (children.map Prod.snd).map Tree.tag := by
      have held : live.slots tag = slotsOf children := reads.slots
      rw [held, slotsOf, List.map_map, List.map_map]
      rfl
    generalize known : ((children.map Prod.snd).map Tree.tag).foldl (adopt tag) live = middle
    obtain ⟨adopted, parents⟩ : Recorded live middle ((children.map Prod.snd).map Tree.tag) ∧
        ∀ id ∈ (children.map Prod.snd).map Tree.tag, id < live.size →
          middle.parent? id = some tag := known ▸ recorded_foldl_adopt tag _
    have flat : ((children.map Prod.snd).reverse.flatMap Tree.tags).Perm (tagsIn children) := by
      rw [tagsIn, ← List.flatMap_map (f := Prod.snd)]
      exact (List.reverse_perm _).flatMap_right _
    have member_iff : ∀ tree ∈ (children.map Prod.snd).reverse,
        ∃ child ∈ children, child.2 = tree :=
      fun tree member => List.mem_map.mp (List.mem_reverse.mp member)
    obtain ⟨recorded, linked⟩ := @recorded_foldl_index middle depth (children.map Prod.snd).reverse
      (by
        intro tree member live reads
        obtain ⟨child, inside, rfl⟩ := member_iff tree member
        have smaller : child.2.size < (Tree.node tag label children).size := size_child_lt inside
        refine ih child inside reads ?_ (by omega)
        exact distinct.sublist (tags_sublist_tagsIn inside))
      (by
        intro tree member
        obtain ⟨child, inside, rfl⟩ := member_iff tree member
        exact adopted.reads (beneath child inside))
      (flat.nodup_iff.mpr distinct)
    have result : live.index (depth + 1) tag =
        ((children.map Prod.snd).reverse.map Tree.tag).foldl (LiveTree.index depth) middle := by
      rw [LiveTree.index, slots, known, List.map_reverse]
    rw [Tree.tag, result]
    refine ⟨(adopted.trans recorded).mono ?_, linked_node.mpr fun child member => ⟨?_, ?_⟩⟩
    · intro id inside
      rcases List.mem_append.mp inside with here | deeper
      · rw [List.map_map] at here
        obtain ⟨child, member, rfl⟩ := List.mem_map.mp here
        exact mem_tagsIn.mpr ⟨child, member, tag_mem_tags child.2⟩
      · obtain ⟨tree, member, below⟩ := List.mem_flatMap.mp deeper
        obtain ⟨child, inside, rfl⟩ := member_iff tree member
        exact mem_tagsIn.mpr ⟨child, inside, mem_tags_of_children below⟩
    · have here : child.2.tag ∈ (children.map Prod.snd).map Tree.tag :=
        List.mem_map_of_mem (List.mem_map_of_mem member)
      rw [recorded.parent, parents _ here ((beneath child member).lt_size (tag_mem_tags _))]
      -- The root of a child does not lie beneath the root of another one, nor beneath itself.
      intro elsewhere
      obtain ⟨tree, among, below⟩ := List.mem_flatMap.mp elsewhere
      obtain ⟨other, inside, rfl⟩ := member_iff tree among
      exact tag_not_mem_of_nodup distinct member inside below
    · exact linked child.2 (List.mem_reverse.mpr (List.mem_map_of_mem member))

end Recording

section Climbing

/-- Climbing from a node one meets the nodes around it. -/
theorem reaches_fill {context : Context NodeId} {tree : NumberedTree} {ancestor : NodeId}
    {steps : Nat} (linked : live.Linked (Context.fill context tree))
    (rootless : live.parent? (Context.fill context tree).tag = none)
    (enough : context.length < steps) : live.reaches ancestor steps tree.tag = true ↔
      tree.tag = ancestor ∨ ancestor ∈ List.map Frame.tag context := by
  induction context generalizing tree steps with
  | nil =>
    obtain ⟨steps, rfl⟩ : ∃ rest, steps = rest + 1 := Nat.exists_eq_add_one.mpr (by omega)
    rw [fill_nil] at rootless
    simp [reaches, rootless]
  | cons frame outer ih =>
    rw [List.length_cons] at enough
    obtain ⟨steps, rfl⟩ : ∃ rest, steps = rest + 1 := Nat.exists_eq_add_one.mpr (by omega)
    have bound : List.length outer < steps := by omega
    have above : live.reaches ancestor steps (frame.fill tree).tag = true ↔
        (frame.fill tree).tag = ancestor ∨ ancestor ∈ List.map Frame.tag outer :=
      ih linked rootless bound
    change live.reaches ancestor steps frame.tag = true ↔
      frame.tag = ancestor ∨ ancestor ∈ List.map Frame.tag outer at above
    simp only [reaches, linked.parent?_hole, Bool.or_eq_true, beq_iff_eq, above, List.map_cons,
      List.mem_cons]
    exact or_congr_right (or_congr_left eq_comm)

/-- **Climbing tells whether a node lies beneath another one.** -/
theorem contains_iff {context : Context NodeId} {inner : NumberedTree} {id : NodeId}
    (reads : live.Reads (Context.fill context inner))
    (linked : live.Linked (Context.fill context inner))
    (rootless : live.parent? (Context.fill context inner).tag = none)
    (distinct : (Context.fill context inner).tags.Nodup)
    (member : id ∈ (Context.fill context inner).tags) :
    live.contains inner.tag id = true ↔ id ∈ inner.tags := by
  have climb : ∀ (around : Context NodeId) (tree : NumberedTree),
      Context.fill context inner = Context.fill around tree →
      (live.contains inner.tag tree.tag = true ↔
        tree.tag = inner.tag ∨ inner.tag ∈ List.map Frame.tag around) := by
    intro around tree same
    rw [same] at reads linked rootless distinct
    have small := reads.size_le distinct
    have bound := length_add_size_le around tree
    exact reaches_fill linked rootless (by omega)
  constructor
  · intro contained
    obtain ⟨tree, inside, rfl⟩ := exists_of_mem_tags member
    obtain ⟨around, same⟩ := exists_fill inside
    rcases (climb around tree same).mp contained with equal | above
    · exact equal ▸ tag_mem_tags inner
    · obtain ⟨frame, among, tag⟩ := List.mem_map.mp above
      obtain ⟨lower, upper, rfl⟩ := List.append_of_mem among
      rw [fill_append, fill_cons] at same
      have node := same ▸ mem_preorder_fill upper (frame.fill (Context.fill lower tree))
      have found : frame.fill (Context.fill lower tree) = inner :=
        eq_of_tag_eq distinct node (mem_preorder_fill context inner) tag
      have beneath := mem_preorder_fill (lower ++ [frame]) tree
      rw [fill_append, fill_cons, fill_nil, found] at beneath
      exact List.mem_map_of_mem beneath
  · intro inside
    obtain ⟨tree, beneath, rfl⟩ := exists_of_mem_tags inside
    obtain ⟨lower, rfl⟩ := exists_fill beneath
    refine (climb (lower ++ context) tree (fill_append lower context tree).symm).mpr ?_
    rcases List.eq_nil_or_concat lower with rfl | ⟨front, frame, rfl⟩
    · exact Or.inl rfl
    · refine Or.inr ?_
      rw [List.concat_eq_append, fill_append]
      simp [Frame.fill, Tree.tag]

end Climbing

end LiveTree

end IfChains
