/-
**Expanding the chains of a program.**

A program is read into a table, in which its nodes have numbers, and a list of numbers of names is
given. What becomes of the program is told on the program alone.

* `Tree.numbered`: the program with the numbers of its nodes; `Tree.dispatched`: what expanding the
  chains of a list comes to; `Tree.leftIn`: the program that is left;
* `Numbering`: the table of a program reads as the numbered program and holds nothing else;
* `dispatched_cases`: the list is accepted with the expansion of the program in one recursion, or it
  is refused for a malformed chain;
* `dispatched_returned`, `exists_dispatched_iff`: what follows if it is accepted, and when it is.
-/

import IfChains.Proofs.Chain.Resolution
import IfChains.Proofs.LiveTree.Planting

namespace IfChains

open IfChains.Tree IfChains.Walk

section Programs

/-- The tree with the numbers that its nodes have in its table. -/
def Tree.numbered (tree : SourceTree) : NumberedTree :=
  ((LiveTree.ofTree tree).2.toTree (LiveTree.ofTree tree).1).map LiveTree.Tag.id

/-- A list of numbers of names in a tree. -/
def Tree.NamesIn (references : List NodeId) (tree : SourceTree) : Prop :=
  ∀ id ∈ references, ∃ node ∈ tree.numbered.preorder, node.tag = id ∧
    ∃ name usage, node.label = .name name usage

/-- What expanding the chains of a list of references comes to, on the table of a tree. -/
def Tree.dispatched (tree : SourceTree) (entry : String) (references : List NodeId) :
    Except WalkFault Nat × WalkState :=
  (Expansion.dispatch entry references).outcome { live := (LiveTree.ofTree tree).2 }

/-- The tree that a state holds for a source tree. -/
def Tree.leftIn (tree : SourceTree) (state : WalkState) : Tree LiveTree.Tag :=
  state.live.toTree (LiveTree.ofTree tree).1

instance (label : Label) : Decidable (∃ name usage, label = .name name usage) :=
  decidable_of_iff _ NodeKind.ofLabel_eq_identifier

instance (references : List NodeId) (tree : SourceTree) :
    Decidable (Tree.NamesIn references tree) :=
  inferInstanceAs (Decidable (∀ id ∈ references, ∃ node ∈ tree.numbered.preorder, node.tag = id ∧
    ∃ name usage, node.label = .name name usage))

end Programs

namespace Tree

open NumberedTree MarkedTree

variable {tree : SourceTree} {references : List NodeId}

section Numbers

/-- The numbers of a program's nodes: its table reads as the numbered tree, with the parents of its
nodes, and holds nothing else. -/
structure Numbering (tree : SourceTree) : Prop where
  reads : (LiveTree.ofTree tree).2.Reads tree.numbered
  linked : (LiveTree.ofTree tree).2.Linked tree.numbered
  root : tree.numbered.tag = (LiveTree.ofTree tree).1
  rootless : (LiveTree.ofTree tree).2.parent? tree.numbered.tag = none
  distinct : tree.numbered.tags.Nodup
  shape : tree.numbered.shape = tree.shape
  covers : ∀ id < (LiveTree.ofTree tree).2.size, id ∈ tree.numbered.tags

theorem numbering (tree : SourceTree) : Numbering tree := by
  obtain ⟨numbered, tag, shape, distinct, reads, linked, rootless, covers⟩ :=
    LiveTree.exists_ofTree tree
  have same : tree.numbered = numbered := by
    rw [Tree.numbered, ← tag]
    exact reads.toTree distinct
  rw [← same] at tag shape distinct reads linked rootless covers
  exact ⟨reads, linked, tag, rootless, distinct, shape, covers⟩

/-- Numbers change no label. -/
theorem Numbering.label_eq (numbering : Numbering tree) : tree.numbered.label = tree.label := by
  have labels := congrArg Tree.label numbering.shape
  rwa [Tree.shape, Tree.shape, label_map, label_map] at labels

/-- The root of a program has a number, and its label. -/
theorem Numbering.label_root (numbering : Numbering tree) :
    (LiveTree.ofTree tree).2.label (LiveTree.ofTree tree).1 = tree.label := by
  rw [← numbering.root, numbering.reads.label, numbering.label_eq]

/-- A number is that of a node, whose label the table has. -/
theorem Numbering.exists_node (numbering : Numbering tree) {id : NodeId}
    (known : id < (LiveTree.ofTree tree).2.size) : ∃ node ∈ tree.numbered.preorder,
      node.tag = id ∧ node.label = (LiveTree.ofTree tree).2.label id := by
  obtain ⟨node, member, rfl⟩ := exists_of_mem_tags (numbering.covers id known)
  exact ⟨node, member, rfl, (numbering.reads.of_mem member).label.symm⟩

/-- What is in a slot of a node is a child of it. -/
theorem Numbering.exists_child (numbering : Numbering tree) {node : NumberedTree}
    (member : node ∈ tree.numbered.preorder) {role : Role} {id : NodeId}
    (slot : (role, id) ∈ (LiveTree.ofTree tree).2.slots node.tag) : ∃ child,
      (role, child) ∈ node.children ∧ child.tag = id ∧
      child.label = (LiveTree.ofTree tree).2.label id := by
  have reads := numbering.reads.of_mem member
  rw [reads.slots] at slot
  obtain ⟨⟨role', child⟩, inside, pair⟩ := List.mem_map.mp slot
  obtain ⟨rfl, rfl⟩ := Prod.mk.inj pair
  exact ⟨child, inside, rfl, (reads.of_mem (child_mem_preorder inside)).label.symm⟩

/-- The table of a program holds the numbered tree. -/
theorem Numbering.leftIn_eq (numbering : Numbering tree) :
    tree.leftIn { live := (LiveTree.ofTree tree).2 } =
      tree.numbered.map fun id => ⟨id, (LiveTree.ofTree tree).2.position? id⟩ := by
  rw [leftIn, ← numbering.root]
  exact numbering.reads.toTree_eq numbering.distinct

end Numbers

/-- The table of a program is sound for its numbered tree. -/
theorem IsProgram.sound (program : tree.IsProgram) (names : NamesIn references tree) :
    Sound references { live := (LiveTree.ofTree tree).2 } tree.numbered ∧
      tree.numbered.tag = (LiveTree.ofTree tree).1 ∧ tree.numbered.shape = tree.shape := by
  have numbers := numbering tree
  refine ⟨⟨numbers.reads, numbers.linked, numbers.rootless, numbers.distinct,
    numbers.label_eq.trans program.root, (conforming_of_shape_eq numbers.shape).mpr
      program.conforming, ?_, ?_, List.nodup_nil, List.nil_subset _⟩, numbers.root, numbers.shape⟩
  · intro id member
    obtain ⟨node, inside, rfl, name, usage, label⟩ := names id member
    exact ⟨name, usage, (numbers.reads.of_mem inside).label.trans label⟩
  · intro id member
    obtain ⟨node, inside, rfl, -⟩ := names id member
    exact iff_of_true (List.mem_map_of_mem inside) List.not_mem_nil

/-- **Expanding the chains of a list in a program** returns, with all of them expanded, or stops at
a malformed chain. -/
theorem dispatched_cases (program : tree.IsProgram) (names : NamesIn references tree)
    (entry : String) :
    (∃ after, tree.dispatched entry references = (.ok references.dedup.length, after) ∧
      (tree.leftIn after).shape = (expand (tree.numbered.map references.contains)).shape ∧
      ∀ id ∈ references, tree.numbered.opensChain id = true) ∨
    (∃ fault location after,
      tree.dispatched entry references = (.error (.shape fault location), after) ∧
      ∃ id ∈ references, tree.numbered.opensChain id = false) := by
  obtain ⟨sound, tag, -⟩ := program.sound names
  have met := @meets_dispatch references { live := (LiveTree.ofTree tree).2 } _ entry sound
  rw [Meets] at met
  rw [dispatched]
  split at met
  · rename_i count after returned
    obtain ⟨left, sound', tag', reduces, unlisted, rfl⟩ := met
    refine Or.inl ⟨after, returned, ?_, fun id member => ?_⟩
    · have holds : (tree.leftIn after).map LiveTree.Tag.id = left := by
        rw [leftIn, ← tag, ← tag']
        exact sound'.reads.toTree sound'.distinct
      rw [← shape_map LiveTree.Tag.id, holds]
      exact reduces.shape_eq unlisted
    · refine reduces.opens_gone member ?_ fun still => unlisted id still member
      exact (sound.pending id member).mpr List.not_mem_nil
  · rename_i fault after stopped
    obtain ⟨⟨shape, location, rfl⟩, ⟨id, member, -, malformed⟩, -⟩ := met
    exact Or.inr ⟨shape, location, after, stopped, id, member, malformed⟩

section Sample

/-- A name that is called with a condition. -/
def opening (name : String) (condition : SourceTree) : SourceTree :=
  .node none .call [(.func, .node none (.name name .load) []), (.args, condition)]

/-- A call of a member, with positional arguments. -/
def continuing (before : SourceTree) (member : String) (arguments : List SourceTree) : SourceTree :=
  .node none .call ((.func, .node none (.member member .load) [(.value, before)]) ::
    arguments.map fun argument => (.args, argument))

/-- An expression that is a name. -/
def reading (name : String) : SourceTree :=
  .node none (.name name .load) []

/-- A program whose only statement is an expression. -/
def stating (expr : SourceTree) : SourceTree :=
  .node none .module [(.body, .node none .exprStmt [(.value, expr)])]

/-- The program `when(a).then(when(b).else_(c).end()).end_()`. -/
def nestedChains : SourceTree :=
  stating (continuing (continuing (opening "when" (reading "a")) "then"
    [continuing (continuing (opening "when" (reading "b")) "else_" [reading "c"]) "end" []])
    "end_" [])

/-- The program `when(a).then(b)`, whose chain has no end. -/
def endlessChain : SourceTree :=
  stating (continuing (opening "when" (reading "a")) "then" [reading "b"])

end Sample

section Outcomes

variable {entry : String} {count : Nat} {after : WalkState}

/-- What a list of references comes to if it is accepted. -/
theorem dispatched_returned (program : tree.IsProgram) (names : NamesIn references tree)
    (returned : tree.dispatched entry references = (.ok count, after)) :
    count = references.dedup.length ∧
      (tree.leftIn after).shape = (expand (tree.numbered.map references.contains)).shape ∧
      ∀ id ∈ references, tree.numbered.opensChain id = true := by
  rcases dispatched_cases program names entry with ⟨after', returned', shape, opens⟩ |
    ⟨fault, location, after', stopped, -⟩
  · cases returned.symm.trans returned'
    exact ⟨rfl, shape, opens⟩
  · cases returned.symm.trans stopped

/-- A list of names that open chains is accepted. -/
theorem dispatched_of_opens (program : tree.IsProgram) (names : NamesIn references tree)
    (entry : String) (opens : ∀ id ∈ references, tree.numbered.opensChain id = true) :
    ∃ after, tree.dispatched entry references = (.ok references.dedup.length, after) := by
  rcases dispatched_cases program names entry with ⟨after, returned, -⟩ |
    ⟨-, -, -, -, id, member, malformed⟩
  · exact ⟨after, returned⟩
  · exact absurd (opens id member) (Bool.eq_false_iff.mp malformed)

/-- A list with a name that opens no chain is not accepted. -/
theorem dispatched_of_malformed (program : tree.IsProgram) (names : NamesIn references tree)
    (entry : String) {id : NodeId} (member : id ∈ references)
    (malformed : tree.numbered.opensChain id = false) :
    ∃ fault location after,
      tree.dispatched entry references = (.error (.shape fault location), after) := by
  rcases dispatched_cases program names entry with ⟨-, -, -, opens⟩ |
    ⟨fault, location, after, stopped, -⟩
  · exact absurd (opens id member) (Bool.eq_false_iff.mp malformed)
  · exact ⟨fault, location, after, stopped⟩

/-- A list is accepted if and only if all names in it open chains. -/
theorem exists_dispatched_iff (program : tree.IsProgram) (names : NamesIn references tree)
    (entry : String) : (∃ count after, tree.dispatched entry references = (.ok count, after)) ↔
      ∀ id ∈ references, tree.numbered.opensChain id = true := by
  constructor
  · rintro ⟨count, after, returned⟩
    exact (dispatched_returned program names returned).2.2
  · intro opens
    exact ⟨_, dispatched_of_opens program names entry opens⟩

/-- **The tree that is left behind** is the expansion of the tree in one recursion, which turns
every chain of a listed name into a conditional expression of its expanded expressions and rebuilds
every other node with its label and its expanded children. -/
theorem dispatched_shape (program : tree.IsProgram) (names : NamesIn references tree)
    (returned : tree.dispatched entry references = (.ok count, after)) :
    (tree.leftIn after).shape = (expand (tree.numbered.map references.contains)).shape ∧
      tree.numbered.shape = tree.shape ∧
      ∀ marked : MarkedTree, expand marked =
        match (Chain.ofTree? marked).filter Chain.head with
        | some chain => conditional (chain.map id expand)
        | none => Chain.rebuilt id expand marked :=
  ⟨(dispatched_returned program names returned).2.1, (program.sound names).2.2, expand_eq⟩

/-- Both chains of a program with one chain inside the other are expanded. -/
theorem dispatched_shape_nestedChains :
    nestedChains.IsProgram ∧ NamesIn [0, 4] nestedChains ∧
      ∃ after, nestedChains.dispatched "when" [0, 4] = (.ok 2, after) ∧
        (nestedChains.leftIn after).shape =
          (expand (nestedChains.numbered.map [0, 4].contains)).shape := by
  have program : nestedChains.IsProgram := by decide
  have names : NamesIn [0, 4] nestedChains := by decide
  have returned : nestedChains.dispatched "when" [0, 4] =
      (.ok 2, (nestedChains.dispatched "when" [0, 4]).2) := eq_ok_of_toOption (by decide +kernel)
  exact ⟨program, names, _, returned, (dispatched_shape program names returned).1⟩

/-- **The order of the list** and repetitions in it do not matter. -/
theorem dispatched_order {first second : List NodeId} (program : tree.IsProgram)
    (names : NamesIn first tree) (same : ∀ id, id ∈ first ↔ id ∈ second) (entry : String) :
    ((∃ count after, tree.dispatched entry first = (.ok count, after)) ↔
      ∃ count after, tree.dispatched entry second = (.ok count, after)) ∧
    ∀ count count' after after', tree.dispatched entry first = (.ok count, after) →
      tree.dispatched entry second = (.ok count', after') →
      (tree.leftIn after).shape = (tree.leftIn after').shape ∧ count = count' := by
  have names' : NamesIn second tree := fun id member => names id ((same id).mpr member)
  refine ⟨?_, fun count count' after after' returned returned' => ?_⟩
  · rw [exists_dispatched_iff program names, exists_dispatched_iff program names']
    exact forall_congr' fun id => imp_congr_left (same id)
  · obtain ⟨rfl, shape, -⟩ := dispatched_returned program names returned
    obtain ⟨rfl, shape', -⟩ := dispatched_returned program names' returned'
    have marks : first.contains = second.contains := by
      funext id
      rw [Bool.eq_iff_iff, List.contains_iff_mem, List.contains_iff_mem, same id]
    have perm : first.dedup.Perm second.dedup :=
      (List.perm_ext_iff_of_nodup first.nodup_dedup second.nodup_dedup).mpr fun id => by
        rw [List.mem_dedup, List.mem_dedup, same id]
    exact ⟨by rw [shape, shape', marks], perm.length_eq⟩

/-- The inner chain of a program may be listed before the outer one, and more than once. -/
theorem dispatched_order_nestedChains :
    ∃ after after', nestedChains.dispatched "when" [0, 4] = (.ok 2, after) ∧
      nestedChains.dispatched "when" [4, 0, 4] = (.ok 2, after') ∧
      (nestedChains.leftIn after).shape = (nestedChains.leftIn after').shape := by
  have program : nestedChains.IsProgram := by decide
  have names : NamesIn [0, 4] nestedChains := by decide
  have same : ∀ id, id ∈ [0, 4] ↔ id ∈ [4, 0, 4] := by simp
  have returned : nestedChains.dispatched "when" [0, 4] =
      (.ok 2, (nestedChains.dispatched "when" [0, 4]).2) := eq_ok_of_toOption (by decide +kernel)
  have returned' : nestedChains.dispatched "when" [4, 0, 4] =
      (.ok 2, (nestedChains.dispatched "when" [4, 0, 4]).2) :=
    eq_ok_of_toOption (by decide +kernel)
  have equal := (dispatched_order program names same "when").2 _ _ _ _ returned returned'
  exact ⟨_, _, returned, returned', equal.1⟩

/-- **A list is accepted exactly if all names in it open chains** in the tree as it was; in every
other case it is refused for a malformed chain. -/
theorem dispatched_returns_iff (program : tree.IsProgram) (names : NamesIn references tree)
    (entry : String) :
    ((∃ count after, tree.dispatched entry references = (.ok count, after)) ↔
      ∀ id ∈ references, tree.numbered.opensChain id = true) ∧
    ((∃ id ∈ references, tree.numbered.opensChain id = false) →
      ∃ fault location after,
        tree.dispatched entry references = (.error (.shape fault location), after)) := by
  refine ⟨exists_dispatched_iff program names entry, ?_⟩
  rintro ⟨id, member, malformed⟩
  exact dispatched_of_malformed program names entry member malformed

/-- A chain without an end is refused, and chains with ends are accepted. -/
theorem dispatched_returns_iff_samples :
    (∃ fault location after,
      endlessChain.dispatched "when" [0] = (.error (.shape fault location), after)) ∧
    ∃ count after, nestedChains.dispatched "when" [0, 4] = (.ok count, after) := by
  constructor
  · exact (dispatched_returns_iff (by decide) (by decide) "when").2 ⟨0, by decide, by decide⟩
  · exact (dispatched_returns_iff (by decide) (by decide) "when").1.mpr (by decide)

end Outcomes

end Tree

end IfChains
