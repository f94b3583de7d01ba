/-
**Expanding the chains of a tree one after another.**

The nodes of a tree in the making have numbers, and some of the numbers are listed. A step puts a
conditional expression in the place of a chain whose head is listed and whose arguments hold no
other listed name. Whatever the order of the steps,

* `Reduces.expand_eq`: the expansion of the tree in one recursion stays the same;
* `Reduces.opens_kept`, `Reduces.opens_gone`: a listed name that is still there opens a chain if and
  only if it did before, and one that is gone did open one;
* `Reduces.shape_eq`: a tree without listed names is the one expansion of the tree it came from;
* `Reduces.eq_of_kept`: a tree that has kept all its listed names is the tree it came from.
-/

import IfChains.Proofs.Chain.Expand
import IfChains.Proofs.LiveTree.Reading
import Mathlib.Logic.Relation

namespace IfChains

open IfChains.Tree

namespace NumberedTree

/-- The tree in which the listed numbers are marked. -/
def marked (listed : List NodeId) (tree : NumberedTree) : MarkedTree :=
  tree.map listed.contains

/-- A tree without listed numbers. -/
def Unlisted (listed : List NodeId) (tree : NumberedTree) : Prop :=
  ∀ id ∈ tree.tags, id ∉ listed

section Marking

variable {listed : List NodeId}

/-- Trees whose marks are those of the same listed numbers have one shape if they are the same when
marked. -/
@[simp]
theorem shape_marked (tree : NumberedTree) : (marked listed tree).shape = tree.shape :=
  shape_map _ tree

@[simp]
theorem label_marked (tree : NumberedTree) : (marked listed tree).label = tree.label :=
  label_map _ tree

/-- Without listed numbers nothing is marked. -/
theorem Unlisted.unmarked {tree : NumberedTree} (unlisted : Unlisted listed tree) :
    ∀ mark ∈ (marked listed tree).tags, mark = false := by
  intro mark member
  rw [marked, tags_map] at member
  obtain ⟨id, inside, rfl⟩ := List.mem_map.mp member
  simpa using unlisted id inside

/-- Without listed numbers nothing is expanded. -/
theorem Unlisted.expand_eq {tree : NumberedTree} (unlisted : Unlisted listed tree) :
    MarkedTree.expand (marked listed tree) = marked listed tree :=
  MarkedTree.expand_eq_self unlisted.unmarked

/-- A node of a tree without listed numbers. -/
theorem Unlisted.of_mem {inner outer : NumberedTree} (unlisted : Unlisted listed outer)
    (member : inner ∈ outer.preorder) : Unlisted listed inner :=
  fun id inside => unlisted id (mem_tags_of_mem member inside)

end Marking

/-- What one expansion does to a tree: a chain with a listed head ends at a node in its context,
there is no other listed name in it, and its conditional expression takes its place. -/
structure Expansion (listed : List NodeId) (context : Context NodeId) (ended expr : NumberedTree)
    (chain : Chain NodeId NumberedTree) : Prop where
  distinct : (Context.fill context ended).tags.Nodup
  reading : Chain.ofTree? ended = some chain
  head : chain.head ∈ listed
  only : ∀ id ∈ ended.tags, id ∈ listed → id = chain.head
  clean : ∀ inner ∈ chain.exprs, Unlisted listed inner
  opens : (Context.fill context ended).opensChain chain.head = true
  image : marked listed expr = MarkedTree.conditional (chain.map listed.contains (marked listed))
  fresh : Unlisted listed expr

/-- One expansion of a chain. -/
def Expands (listed : List NodeId) (before after : NumberedTree) : Prop :=
  ∃ context ended expr chain, Expansion listed context ended expr chain ∧
    before = Context.fill context ended ∧ after = Context.fill context expr

/-- Any number of expansions. -/
abbrev Reduces (listed : List NodeId) : NumberedTree → NumberedTree → Prop :=
  Relation.ReflTransGen (Expands listed)

variable {listed : List NodeId} {before after : NumberedTree}

section Step

variable {context : Context NodeId} {ended expr : NumberedTree}
  {chain : Chain NodeId NumberedTree}

/-- What takes the place of a chain is a conditional expression. -/
theorem Expansion.label_expr (expansion : Expansion listed context ended expr chain) :
    expr.label = .ifExp := by
  have label := congrArg Tree.label expansion.image
  rwa [label_marked, MarkedTree.label_conditional] at label

/-- A chain ends at a call. -/
theorem Expansion.label_ended (expansion : Expansion listed context ended expr chain) :
    ended.label = .call := by
  have reading := expansion.reading
  obtain ⟨tag, label, children⟩ := ended
  exact (Chain.exists_of_ended reading).1

/-- Neither is unpacked. -/
theorem Expansion.isStarred_eq (expansion : Expansion listed context ended expr chain) :
    ended.isStarred = expr.isStarred := by
  rw [isStarred, isStarred, expansion.label_ended, expansion.label_expr]
  rfl

/-- The head of the chain is in it. -/
theorem Expansion.head_mem (expansion : Expansion listed context ended expr chain) :
    chain.head ∈ ended.tags :=
  (Chain.ofTree?_within expansion.reading).head

/-- A chain whose arguments hold no listed name is expanded to what takes its place. -/
theorem Expansion.expand_eq (expansion : Expansion listed context ended expr chain) :
    MarkedTree.expand (marked listed ended) = MarkedTree.expand (marked listed expr) := by
  have read : Chain.ofTree? (marked listed ended) =
      some (chain.map listed.contains (marked listed)) := by
    rw [marked, Chain.ofTree?_map, expansion.reading]
    rfl
  have isMarked : (chain.map listed.contains (marked listed)).head = true := by
    simpa [Chain.map] using expansion.head
  rw [expansion.fresh.expand_eq, expansion.image, MarkedTree.expand_of_chain read isMarked]
  congr 1
  rw [Chain.map_map]
  exact Chain.map_congr rfl fun inner member => (expansion.clean inner member).expand_eq

/-- A chain ends beneath the root of a program. -/
theorem Expansion.exists_frame (expansion : Expansion listed context ended expr chain)
    (root : (Context.fill context ended).label = .module) :
    ∃ frame outer, context = frame :: outer := by
  cases context with
  | nil => exact nomatch expansion.label_ended.symm.trans root
  | cons frame outer => exact ⟨frame, outer, rfl⟩

/-- A listed number is gone only if it is the head of the chain. -/
theorem Expansion.mem_iff (expansion : Expansion listed context ended expr chain) {id : NodeId}
    (member : id ∈ listed) : id ∈ (Context.fill context expr).tags ↔
      id ∈ (Context.fill context ended).tags ∧ id ≠ chain.head := by
  have apart := (nodup_tags_fill.mp expansion.distinct).2.2
  rw [mem_tags_fill, mem_tags_fill]
  constructor
  · rintro (around | inside)
    · exact ⟨Or.inl around, fun same => apart around (same ▸ expansion.head_mem)⟩
    · exact absurd member (expansion.fresh id inside)
  · rintro ⟨around | inside, other⟩
    · exact Or.inl around
    · exact absurd (expansion.only id inside member) other

end Step

/-- One expansion keeps the expansion in one recursion. -/
theorem Expands.expand_eq (step : Expands listed before after) :
    MarkedTree.expand (marked listed before) = MarkedTree.expand (marked listed after) := by
  obtain ⟨context, ended, expr, chain, expansion, rfl, rfl⟩ := step
  rw [marked, marked, map_fill, map_fill]
  exact MarkedTree.expand_fill_congr _ expansion.expand_eq

/-- No listed number comes in. -/
theorem Expands.mem_before (step : Expands listed before after) {id : NodeId} (member : id ∈ listed)
    (inside : id ∈ after.tags) : id ∈ before.tags := by
  obtain ⟨context, ended, expr, chain, expansion, rfl, rfl⟩ := step
  exact ((expansion.mem_iff member).mp inside).1

/-- A listed name that is still there opens a chain if and only if it did before. -/
theorem Expands.opens_kept (step : Expands listed before after) {id : NodeId} (member : id ∈ listed)
    (inside : id ∈ after.tags) : before.opensChain id = after.opensChain id := by
  obtain ⟨context, ended, expr, chain, expansion, rfl, rfl⟩ := step
  have different := ((expansion.mem_iff member).mp inside).2
  refine opensChain_congr (Alike.fillContext context (.of_absent expansion.isStarred_eq ?_ ?_))
  · intro other beneath
    refine beq_eq_false_iff_ne.mpr fun same => different ?_
    exact expansion.only id (same ▸ beneath) member
  · intro other beneath
    exact beq_eq_false_iff_ne.mpr fun same => expansion.fresh other beneath (same ▸ member)

/-- A listed name that is gone did open a chain. -/
theorem Expands.opens_gone (step : Expands listed before after) {id : NodeId} (member : id ∈ listed)
    (inside : id ∈ before.tags) (outside : id ∉ after.tags) : before.opensChain id = true := by
  obtain ⟨context, ended, expr, chain, expansion, rfl, rfl⟩ := step
  have same : id = chain.head := by
    by_contra different
    exact outside ((expansion.mem_iff member).mpr ⟨inside, different⟩)
  rw [same]
  exact expansion.opens

/-- The root of a program stays. -/
theorem Expands.root_eq (step : Expands listed before after) (root : before.label = .module) :
    after.tag = before.tag ∧ after.label = .module := by
  obtain ⟨context, ended, expr, chain, expansion, rfl, rfl⟩ := step
  obtain ⟨frame, outer, rfl⟩ := expansion.exists_frame root
  have tags : (frame.fill expr).tag = (frame.fill ended).tag := rfl
  have labels : (frame.fill expr).label = (frame.fill ended).label := rfl
  exact ⟨tag_fill_congr outer tags, (label_fill_congr outer labels).trans root⟩

/-- **Expansions in any order keep the expansion in one recursion.** -/
theorem Reduces.expand_eq (steps : Reduces listed before after) :
    MarkedTree.expand (marked listed before) = MarkedTree.expand (marked listed after) := by
  induction steps with
  | refl => rfl
  | tail _ step ih => exact ih.trans step.expand_eq

/-- No listed number comes in. -/
theorem Reduces.mem_before (steps : Reduces listed before after) {id : NodeId}
    (member : id ∈ listed) (inside : id ∈ after.tags) : id ∈ before.tags := by
  induction steps with
  | refl => exact inside
  | tail _ step ih => exact ih (step.mem_before member inside)

/-- **A listed name that is still there** opens a chain if and only if it did before. -/
theorem Reduces.opens_kept (steps : Reduces listed before after) {id : NodeId}
    (member : id ∈ listed)
    (inside : id ∈ after.tags) : before.opensChain id = after.opensChain id := by
  induction steps with
  | refl => rfl
  | tail _ step ih =>
    exact (ih (step.mem_before member inside)).trans (step.opens_kept member inside)

/-- **A listed name that is gone** did open a chain. -/
theorem Reduces.opens_gone (steps : Reduces listed before after) {id : NodeId}
    (member : id ∈ listed)
    (inside : id ∈ before.tags) (outside : id ∉ after.tags) : before.opensChain id = true := by
  induction steps with
  | refl => exact absurd inside outside
  | @tail middle after steps step ih =>
    by_cases still : id ∈ middle.tags
    · have kept : before.opensChain id = middle.opensChain id :=
        Reduces.opens_kept steps member still
      rw [kept]
      exact step.opens_gone member still outside
    · exact ih still

/-- **A tree that has kept all its listed names** is the tree it came from, since every expansion
takes one away. -/
theorem Reduces.eq_of_kept (steps : Reduces listed before after)
    (kept : ∀ id ∈ before.tags, id ∈ listed → id ∈ after.tags) : before = after := by
  rcases Relation.ReflTransGen.cases_head steps with same | ⟨middle, step, rest⟩
  · exact same
  · obtain ⟨context, ended, expr, chain, expansion, rfl, rfl⟩ := step
    have inside := mem_tags_of_mem (mem_preorder_fill context ended) expansion.head_mem
    have still := Reduces.mem_before rest expansion.head (kept _ inside expansion.head)
    exact absurd rfl ((expansion.mem_iff expansion.head).mp still).2

/-- The root of a program stays. -/
theorem Reduces.root_eq (steps : Reduces listed before after) (root : before.label = .module) :
    after.tag = before.tag ∧ after.label = .module := by
  induction steps with
  | refl => exact ⟨rfl, root⟩
  | tail _ step ih =>
    obtain ⟨tag, label⟩ := step.root_eq ih.2
    exact ⟨tag.trans ih.1, label⟩

/-- **A tree without listed names** that comes from another one has the shape of the expansion of
that one. -/
theorem Reduces.shape_eq (steps : Reduces listed before after) (done : Unlisted listed after) :
    after.shape = (MarkedTree.expand (marked listed before)).shape := by
  rw [steps.expand_eq, done.expand_eq, shape_marked]

end NumberedTree

end IfChains
