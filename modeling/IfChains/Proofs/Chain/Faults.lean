/-
**The faults that a request can meet.**

Expanding the chains of a list may stop for many reasons, but only one of them is that a chain is
malformed. The others are that a node is replaced which the tree does not hold, that a continuation
feeds no branch, that a node is taken for one of another kind, that an argument is gone and that a
climb has no end. On the tree of a program none of them occurs, and the table is that of a program's
tree again afterwards. So none occurs however often the tree is asked.

* `Stands.answered`: what one request comes to on the tree of a program;
* `Orderly.stands`: a program's tree stands in the table after every request;
* `dispatched_answers`: the answers that requests get.
-/

import IfChains.Proofs.Chain.Accessors
import IfChains.Proofs.Chain.Program
import IfChains.Proofs.Chain.Requests

namespace IfChains

open IfChains.Tree IfChains.Walk

namespace NumberedTree

variable {live : LiveTree} {state : WalkState} {tree : NumberedTree} {references : List NodeId}

/-- A list of numbers of names in a tree. -/
def HasNames (tree : NumberedTree) (references : List NodeId) : Prop :=
  ∀ id ∈ references, ∃ node ∈ tree.preorder, node.tag = id ∧ ∃ name usage,
    node.label = .name name usage

instance (tree : NumberedTree) (references : List NodeId) : Decidable (tree.HasNames references) :=
  inferInstanceAs (Decidable (∀ id ∈ references, ∃ node ∈ tree.preorder, node.tag = id ∧
    ∃ name usage, node.label = .name name usage))

/-- A table is that of a program's tree, with the parents of its nodes. -/
structure Stands (live : LiveTree) (tree : NumberedTree) : Prop where
  reads : live.Reads tree
  linked : live.Linked tree
  rootless : live.parent? tree.tag = none
  distinct : tree.tags.Nodup
  root : tree.label = .module
  conforming : tree.Conforming

/-- The table of a sound state is that of a program's tree. -/
theorem Sound.stands {listed : List NodeId} (sound : Sound listed state tree) :
    Stands state.live tree :=
  ⟨sound.reads, sound.linked, sound.rootless, sound.distinct, sound.root, sound.conforming⟩

/-- **Before a request for names in the tree** the state is sound for them. -/
theorem Stands.sound (stands : Stands live tree) (names : tree.HasNames references) :
    Sound references ⟨live, [], []⟩ tree := by
  refine ⟨stands.reads, stands.linked, stands.rootless, stands.distinct, stands.root,
    stands.conforming, fun id member => ?_, fun id member => ?_, List.nodup_nil, List.nil_subset _⟩
  · obtain ⟨node, inside, rfl, name, usage, label⟩ := names id member
    exact ⟨name, usage, (stands.reads.of_mem inside).label.trans label⟩
  · obtain ⟨node, inside, rfl, -⟩ := names id member
    exact iff_of_true (List.mem_map_of_mem inside) List.not_mem_nil

/-- An answer to a request: the number of expanded chains, or that a chain is malformed. -/
inductive IsAnswer : Except WalkFault Nat → Prop
  | expanded (count : Nat) : IsAnswer (.ok count)
  | malformed (fault : ShapeFault) (location : Location) :
      IsAnswer (.error (.shape fault location))

/-- **What a request for names in a program's tree comes to**: an answer, and the table of a
program's tree with the same root. -/
theorem Stands.answered (stands : Stands live tree) (names : tree.HasNames references)
    (entry : String) :
    IsAnswer ((Expansion.dispatch entry references).outcome ⟨live, [], []⟩).1 ∧
      ∃ left, Stands ((Expansion.dispatch entry references).outcome ⟨live, [], []⟩).2.live left ∧
        left.tag = tree.tag := by
  have met := @meets_dispatch references ⟨live, [], []⟩ tree entry (stands.sound names)
  rw [Meets] at met
  split at met <;> rename_i outcome <;> rw [outcome]
  · obtain ⟨left, sound, tag, -⟩ := met
    exact ⟨.expanded _, left, sound.stands, tag⟩
  · obtain ⟨⟨shape, location, rfl⟩, -, left, sound, leads⟩ := met
    exact ⟨.malformed shape location, left, sound.stands, (leads.reduces.root_eq stands.root).1⟩

end NumberedTree

namespace Tree

open NumberedTree

variable {tree : SourceTree} {requests : List Request}

/-- Requests of which each is one for names in the tree that stands in the table by then. -/
inductive Orderly (tree : SourceTree) : List Request → Prop
  | none : Orderly tree []
  | dispatch {requests : List Request} (orderly : Orderly tree requests) (entry : String)
      (references : List NodeId) (names : (tree.standing requests).HasNames references) :
      Orderly tree (requests ++ [.dispatch entry references])

/-- The tree of a program stands in its table. -/
theorem IsProgram.stands (program : tree.IsProgram) :
    Stands (LiveTree.ofTree tree).2 tree.numbered ∧
      tree.numbered.tag = (LiveTree.ofTree tree).1 := by
  have names : NamesIn [] tree := fun _ absurd => nomatch absurd
  obtain ⟨sound, tag, -⟩ := program.sound names
  exact ⟨sound.stands, tag⟩

/-- **A program's tree stands in the table** after every request. -/
theorem Orderly.stands (program : tree.IsProgram) (orderly : Orderly tree requests) :
    Stands (tree.asked requests) (tree.standing requests) ∧
      (tree.standing requests).tag = (LiveTree.ofTree tree).1 := by
  induction orderly with
  | none => exact program.stands
  | @dispatch requests _ entry references names ih =>
    obtain ⟨stands, root⟩ := ih
    obtain ⟨-, left, stands', tag⟩ := stands.answered names entry
    have asked : tree.asked (requests ++ [.dispatch entry references]) =
        ((Expansion.dispatch entry references).outcome ⟨tree.asked requests, [], []⟩).2.live := by
      simp [Tree.asked, Request.leaves]
    have standing : tree.standing (requests ++ [.dispatch entry references]) = left := by
      rw [Tree.standing, asked, ← root, ← tag]
      exact stands'.reads.toTree stands'.distinct
    rw [standing, asked]
    exact ⟨stands', tag.trans root⟩

/-- **The answers that requests get.** Expanding the chains of any list of names in a program
returns or stops at a malformed chain, and so does every request for names that are in the tree by
then, whatever was asked and answered before. What a walk asks of calls and of members it asks of no
other node: with any ways to ask that agree on calls and on members, all comes to the same. -/
theorem dispatched_answers (program : tree.IsProgram) (entry : String) (references : List NodeId) :
    (NamesIn references tree → IsAnswer (tree.dispatched entry references).1) ∧
    (∀ requests, Orderly tree requests → (tree.standing requests).HasNames references →
      IsAnswer ((Expansion.dispatch entry references).outcome ⟨tree.asked requests, [], []⟩).1) ∧
    ∀ accessors : Accessors, accessors.Agrees → ∀ state,
      (accessors.dispatch entry references).outcome state =
        (Expansion.dispatch entry references).outcome state := by
  refine ⟨fun names => ?_, fun requests orderly names => ?_, fun accessors agrees state => ?_⟩
  · unfold Tree.dispatched
    exact (program.stands.1.answered names entry).1
  · exact ((orderly.stands program).1.answered names entry).1
  · exact Accessors.same_dispatch agrees entry references state trivial

/-- A list with repetitions is answered. So is a request for the outer one of two chains after the
inner one was expanded. And a walk that stops at calls and members of another kind comes to the
same. -/
theorem dispatched_answers_nestedChains :
    nestedChains.IsProgram ∧ IsAnswer (nestedChains.dispatched "when" [4, 0, 4]).1 ∧
    IsAnswer ((Expansion.dispatch "when" [0]).outcome
      ⟨nestedChains.asked [.dispatch "when" [4]], [], []⟩).1 ∧
    ∀ state, (Accessors.strict.dispatch "when" [0]).outcome state =
      (Expansion.dispatch "when" [0]).outcome state := by
  have program : nestedChains.IsProgram := by decide
  have orderly : Orderly nestedChains [.dispatch "when" [4]] :=
    .dispatch .none "when" [4] (by decide)
  have names : (nestedChains.standing [.dispatch "when" [4]]).HasNames [0] := by decide +kernel
  have repeated : NamesIn [4, 0, 4] nestedChains := by decide
  have first := (dispatched_answers program "when" [4, 0, 4]).1 repeated
  obtain ⟨-, later, strict⟩ := dispatched_answers program "when" [0]
  have second := later [.dispatch "when" [4]] orderly names
  have third := strict Accessors.strict Accessors.agrees_strict
  exact ⟨program, first, second, third⟩

end Tree

end IfChains
