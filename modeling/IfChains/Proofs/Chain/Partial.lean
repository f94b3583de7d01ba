/-
**Expanding a part of the listed chains.**

When the expansions of listed chains stop early, some of the listed heads are gone and the others
are still there.

* `Reduces.restrict`: what has happened is the expansion of the chains whose heads are gone;
* `Keeps`: a tree in which some chains are expanded and nothing else is changed;
* `Reduces.keeps`: that is what is left behind;
* `Keeps.eq_of_unlisted`, `Keeps.exists_fill`: a part without expanded chains is as it was, and so
  is everything on the way from a waiting name to the root.
-/

import IfChains.Proofs.Chain.Reduction

namespace IfChains

open IfChains.Tree

namespace NumberedTree

variable {listed expanded : List NodeId} {before after : NumberedTree}

section Restriction

/-- A tree without listed numbers has none of fewer ones. -/
theorem Unlisted.mono {tree : NumberedTree} (unlisted : Unlisted listed tree)
    (subset : expanded ⊆ listed) : Unlisted expanded tree :=
  fun id inside member => unlisted id inside (subset member)

/-- Without listed numbers it does not matter which of them are marked. -/
theorem Unlisted.marked_eq {tree : NumberedTree} (unlisted : Unlisted listed tree)
    (subset : expanded ⊆ listed) : marked expanded tree = marked listed tree := by
  refine map_congr fun id inside => ?_
  have fewer := (unlisted.mono subset) id inside
  have none := unlisted id inside
  rw [List.contains_eq_mem, List.contains_eq_mem, decide_eq_false fewer, decide_eq_false none]

variable {context : Context NodeId} {ended expr : NumberedTree} {chain : Chain NodeId NumberedTree}

/-- An expansion of a chain among fewer listed ones. -/
theorem Expansion.restrict (expansion : Expansion listed context ended expr chain)
    (subset : expanded ⊆ listed) (head : chain.head ∈ expanded) :
    Expansion expanded context ended expr chain where
  distinct := expansion.distinct
  reading := expansion.reading
  head := head
  only id inside member := expansion.only id inside (subset member)
  clean inner member := (expansion.clean inner member).mono subset
  opens := expansion.opens
  fresh := expansion.fresh.mono subset
  image := by
    rw [expansion.fresh.marked_eq subset, expansion.image]
    refine congrArg _ (Chain.map_congr ?_ fun inner member => ?_)
    · rw [List.contains_eq_mem, List.contains_eq_mem, decide_eq_true head,
        decide_eq_true expansion.head]
    · exact ((expansion.clean inner member).marked_eq subset).symm

/-- The head of a chain that is expanded is gone. -/
theorem Expands.restrict (step : Expands listed before after) (subset : expanded ⊆ listed)
    (gone : ∀ id ∈ listed, id ∈ before.tags → id ∉ after.tags → id ∈ expanded) :
    Expands expanded before after := by
  obtain ⟨context, ended, expr, chain, expansion, rfl, rfl⟩ := step
  refine ⟨context, ended, expr, chain, expansion.restrict subset ?_, rfl, rfl⟩
  refine gone _ expansion.head (mem_tags_fill.mpr (Or.inr expansion.head_mem)) fun still => ?_
  exact ((expansion.mem_iff expansion.head).mp still).2 rfl

/-- **What has happened is the expansion of the chains whose heads are gone.** -/
theorem Reduces.restrict (steps : Reduces listed before after) (subset : expanded ⊆ listed)
    (gone : ∀ id ∈ listed, id ∈ before.tags → id ∉ after.tags → id ∈ expanded) :
    Reduces expanded before after := by
  induction steps with
  | refl => exact .refl
  | @tail middle after steps step ih =>
    refine (ih fun id member inside outside => ?_).tail (step.restrict subset ?_)
    · exact gone id member inside fun still => outside (step.mem_before member still)
    · exact fun id member inside => gone id member (Reduces.mem_before steps member inside)

end Restriction

section Keeping

/-- A chain with a listed head ends at a node. -/
def Ends (listed : List NodeId) (tree : NumberedTree) : Prop :=
  ∃ chain, Chain.ofTree? tree = some chain ∧ chain.head ∈ listed

/-- Children that have the same role and are related. -/
inductive Slotwise (related : NumberedTree → NumberedTree → Prop) :
    Role × NumberedTree → Role × NumberedTree → Prop
  | intro (role : Role) {one two : NumberedTree} (same : related one two) :
    Slotwise related (role, one) (role, two)

/-- A tree in which certain chains are expanded and nothing else is changed: where such a chain
ends there is what it expands to, and all listed names in it are those of such chains; any other
node is there with its number, its label and its children. -/
inductive Keeps (listed expanded : List NodeId) : NumberedTree → NumberedTree → Prop
  | chain {ended expr : NumberedTree} (ends : Ends expanded ended)
      (done : ∀ id ∈ ended.tags, id ∈ listed → id ∈ expanded)
      (shape : expr.shape = (MarkedTree.expand (marked expanded ended)).shape) :
    Keeps listed expanded ended expr
  | node {tag : NodeId} {label : Label} {children children' : Forest NodeId}
      (stays : ¬Ends expanded (.node tag label children))
      (slots : List.Forall₂ (Slotwise (Keeps listed expanded)) children children') :
    Keeps listed expanded (.node tag label children) (.node tag label children')

/-- A chain with a listed head ends at a node if one with a marked head ends there once the chains
beneath the node are expanded. -/
theorem ends_iff {tree : NumberedTree} : Ends listed tree ↔ ∃ chain,
    Chain.ofTree? (Chain.rebuilt id MarkedTree.expand (marked listed tree)) = some chain ∧
      chain.head = true := by
  rw [MarkedTree.rebuilds_expand.ofTree?_image, marked, Chain.ofTree?_map, Ends]
  cases Chain.ofTree? tree with
  | none => simp
  | some chain => simp [Chain.map]

/-- Whether a chain ends at a frame does not depend on what is in its hole, as long as that expands
to the same. -/
theorem ends_frame_congr (frame : Frame NodeId) {first second : NumberedTree}
    (same : MarkedTree.expand (marked listed first) = MarkedTree.expand (marked listed second)) :
    Ends listed (frame.fill first) ↔ Ends listed (frame.fill second) := by
  have rebuilt := MarkedTree.rebuilt_frame_congr (frame.map listed.contains) same
  rw [marked, marked, ← Frame.map_fill, ← Frame.map_fill] at rebuilt
  rw [ends_iff, ends_iff, marked, marked, rebuilt]

/-- Without expanded names no expanded chain ends. -/
theorem Unlisted.not_ends {tree : NumberedTree} (unlisted : Unlisted listed tree) :
    ¬Ends listed tree := by
  rintro ⟨chain, reading, member⟩
  exact unlisted _ (Chain.ofTree?_within reading).head member

/-- A tree without expanded names is kept. -/
theorem Keeps.refl {tree : NumberedTree} (unlisted : Unlisted expanded tree) :
    Keeps listed expanded tree tree := by
  induction tree using Tree.induction with
  | node tag label children ih =>
    refine .node unlisted.not_ends (List.forall₂_same.mpr fun child member => ?_)
    exact .intro child.1 (ih child member (unlisted.of_mem (child_mem_preorder member)))

/-- Children that are only related to themselves. -/
theorem eq_of_slotwise {related : NumberedTree → NumberedTree → Prop}
    {children children' : Forest NodeId}
    (slots : List.Forall₂ (Slotwise related) children children')
    (same : ∀ child ∈ children, ∀ tree, related child.2 tree → tree = child.2) :
    children' = children := by
  induction slots with
  | nil => rfl
  | @cons one two rest rest' slot _ ih =>
    rw [List.forall_mem_cons] at same
    obtain ⟨role, here⟩ := slot
    rw [same.1 _ here, ih same.2]

/-- **A part without expanded names is as it was.** -/
theorem Keeps.eq_of_unlisted (keeps : Keeps listed expanded before after)
    (unlisted : Unlisted expanded before) : after = before := by
  induction before using Tree.induction generalizing after with
  | node tag label children ih =>
    cases keeps with
    | chain ends => exact absurd ends unlisted.not_ends
    | node stays slots =>
      rw [eq_of_slotwise slots fun child member tree same =>
        ih child member same (unlisted.of_mem (child_mem_preorder member))]

end Keeping

section Steps

/-- A part of a tree that may be put back in the place of another one, which it expands to. -/
structure Precedes (listed expanded : List NodeId) (first second : NumberedTree) : Prop where
  expands : MarkedTree.expand (marked expanded first) = MarkedTree.expand (marked expanded second)
  covered : ∀ id ∈ first.tags, id ∈ listed → id ∈ second.tags ∨ id ∈ expanded
  keeps : ∀ after, Keeps listed expanded second after → Keeps listed expanded first after

/-- A chain may be put back in the place of its conditional expression. -/
theorem Expansion.precedes {context : Context NodeId} {ended expr : NumberedTree}
    {chain : Chain NodeId NumberedTree} (expansion : Expansion listed context ended expr chain)
    (subset : expanded ⊆ listed) (head : chain.head ∈ expanded) :
    Precedes listed expanded ended expr := by
  have restricted := expansion.restrict subset head
  have only : ∀ id ∈ ended.tags, id ∈ listed → id ∈ expanded := fun id inside member =>
    expansion.only id inside member ▸ head
  refine ⟨restricted.expand_eq, fun id inside member => Or.inr (only id inside member), ?_⟩
  rintro after keeps
  refine .chain ⟨chain, restricted.reading, head⟩ only ?_
  rw [keeps.eq_of_unlisted restricted.fresh, restricted.expand_eq, restricted.fresh.expand_eq,
    shape_marked]

/-- What may be put back may be put back in the hole of a frame. -/
theorem Precedes.frame {first second : NumberedTree} (frame : Frame NodeId)
    (precedes : Precedes listed expanded first second) :
    Precedes listed expanded (frame.fill first) (frame.fill second) := by
  obtain ⟨expands, covered, keeps⟩ := precedes
  have expandsFrame : MarkedTree.expand (marked expanded (frame.fill first)) =
      MarkedTree.expand (marked expanded (frame.fill second)) := by
    rw [marked, marked, Frame.map_fill, Frame.map_fill]
    exact MarkedTree.expand_frame_congr _ expands
  have coveredFrame : ∀ id ∈ (frame.fill first).tags, id ∈ listed →
      id ∈ (frame.fill second).tags ∨ id ∈ expanded := by
    intro id inside member
    rcases (@mem_tags_fill _ [frame] first id).mp inside with around | within
    · exact Or.inl ((@mem_tags_fill _ [frame] second id).mpr (Or.inl around))
    · exact (covered id within member).imp_left fun still =>
        (@mem_tags_fill _ [frame] second id).mpr (Or.inr still)
  refine ⟨expandsFrame, coveredFrame, fun after kept => ?_⟩
  have ends := ends_frame_congr frame expands
  generalize filled : frame.fill second = outer at kept
  cases kept with
  | chain endsHere done shape =>
    subst filled
    refine .chain (ends.mpr endsHere) (fun id inside member => ?_) (expandsFrame ▸ shape)
    exact (coveredFrame id inside member).elim (fun still => done id still member) fun done => done
  | @node tag label children children' stays slots =>
    obtain ⟨rfl, rfl, rfl⟩ := Tree.node.inj filled
    refine .node (fun endsHere => stays (ends.mp endsHere)) ?_
    obtain ⟨before', rest, slotsBefore, slotsRest, rfl⟩ := exists_append_of_forall₂ slots
    obtain ⟨hole, after', slot, slotsAfter, rfl⟩ := List.forall₂_cons_left_iff.mp slotsRest
    cases slot with
    | intro role same => exact List.rel_append slotsBefore (.cons (.intro _ (keeps _ same)) slotsAfter)

/-- What may be put back may be put back in a context. -/
theorem Precedes.fill {first second : NumberedTree} (context : Context NodeId)
    (precedes : Precedes listed expanded first second) :
    Precedes listed expanded (Context.fill context first) (Context.fill context second) := by
  induction context generalizing first second with
  | nil => exact precedes
  | cons frame outer ih => exact ih (precedes.frame frame)

/-- **What is left behind is the tree with some chains expanded and nothing else changed**, if the
chains of those names are expanded that are gone. -/
theorem Reduces.keeps (steps : Reduces listed before after) (subset : expanded ⊆ listed)
    (gone : ∀ id ∈ listed, id ∈ before.tags → id ∉ after.tags → id ∈ expanded)
    (left : Unlisted expanded after) : Keeps listed expanded before after := by
  induction steps using Relation.ReflTransGen.head_induction_on with
  | refl => exact .refl left
  | @head before middle step steps ih =>
    have kept : Keeps listed expanded middle after := ih fun id member inside =>
      gone id member (step.mem_before member inside)
    obtain ⟨context, ended, expr, chain, expansion, rfl, rfl⟩ := step
    have head : chain.head ∈ expanded := by
      refine gone _ expansion.head (mem_tags_fill.mpr (Or.inr expansion.head_mem)) fun still => ?_
      have inside := Reduces.mem_before steps expansion.head still
      exact ((expansion.mem_iff expansion.head).mp inside).2 rfl
    exact ((expansion.precedes subset head).fill context).keeps after kept

end Steps

section Waiting

/-- A frame that is kept, apart from the expansion of chains in its other children. -/
structure FrameKept (listed expanded : List NodeId) (first second : Frame NodeId) : Prop where
  tag : second.tag = first.tag
  label : second.label = first.label
  role : second.role = first.role
  before : List.Forall₂ (Slotwise (Keeps listed expanded)) first.before second.before
  after : List.Forall₂ (Slotwise (Keeps listed expanded)) first.after second.after

/-- A frame around a listed name whose chain is not expanded. -/
theorem Keeps.exists_frame {frame : Frame NodeId} {inside : NumberedTree}
    (keeps : Keeps listed expanded (frame.fill inside) after)
    (waiting : ∃ id ∈ inside.tags, id ∈ listed ∧ id ∉ expanded) :
    ∃ frame' inside', after = frame'.fill inside' ∧ FrameKept listed expanded frame frame' ∧
      Keeps listed expanded inside inside' := by
  obtain ⟨id, within, member, absent⟩ := waiting
  have beneath : id ∈ (frame.fill inside).tags :=
    (@mem_tags_fill _ [frame] inside id).mpr (Or.inr within)
  generalize filled : frame.fill inside = outer at keeps beneath
  cases keeps with
  | chain ends done shape => exact absurd (done id beneath member) absent
  | node stays slots =>
    obtain ⟨rfl, rfl, rfl⟩ := Tree.node.inj filled
    obtain ⟨before', rest, slotsBefore, slotsRest, rfl⟩ := exists_append_of_forall₂ slots
    obtain ⟨hole, after', slot, slotsAfter, rfl⟩ := List.forall₂_cons_left_iff.mp slotsRest
    obtain ⟨role, same⟩ := slot
    exact ⟨⟨frame.tag, frame.label, before', frame.role, after'⟩, _, rfl,
      ⟨rfl, rfl, rfl, slotsBefore, slotsAfter⟩, same⟩

/-- **Everything on the way from a waiting name to the root is kept.** -/
theorem Keeps.exists_fill {context : Context NodeId} {inside : NumberedTree}
    (keeps : Keeps listed expanded (Context.fill context inside) after)
    (waiting : ∃ id ∈ inside.tags, id ∈ listed ∧ id ∉ expanded) :
    ∃ context' inside', after = Context.fill context' inside' ∧
      List.Forall₂ (FrameKept listed expanded) context context' ∧
      Keeps listed expanded inside inside' := by
  induction context generalizing inside with
  | nil => exact ⟨[], after, rfl, .nil, keeps⟩
  | cons frame outer ih =>
    have waitingFrame : ∃ id ∈ (frame.fill inside).tags, id ∈ listed ∧ id ∉ expanded := by
      obtain ⟨id, within, both⟩ := waiting
      exact ⟨id, (@mem_tags_fill _ [frame] inside id).mpr (Or.inr within), both⟩
    obtain ⟨outer', filled, rfl, frames, kept⟩ := ih keeps waitingFrame
    obtain ⟨frame', inside', rfl, same, inner⟩ := kept.exists_frame waiting
    exact ⟨frame' :: outer', inside', rfl, .cons same frames, inner⟩

end Waiting

end NumberedTree

end IfChains
