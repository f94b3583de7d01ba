/-
**What a run that stops leaves behind.**

Expanding the chains of a list stops at a malformed chain. What has been changed until then stays
changed: some chains are expanded as a whole, and nothing else is changed.

* `exists_left`: the tree that is left behind comes from the program by expansions of listed chains;
* `dispatched_stopped`: it is the program with the chains expanded that were noted as such; every
  other listed name stands where it stood, and so does everything around it.
-/

import IfChains.Proofs.Chain.Lasting
import IfChains.Proofs.Chain.Partial
import IfChains.Proofs.Chain.Program

namespace IfChains

open IfChains.Tree IfChains.Walk

namespace Tree

open NumberedTree MarkedTree

variable {tree : SourceTree} {references : List NodeId} {entry : String} {fault : WalkFault}
  {after : WalkState}

/-- The tree that is left behind comes from the program by expansions of listed chains. -/
theorem exists_left (program : tree.IsProgram) (names : NamesIn references tree)
    (stopped : tree.dispatched entry references = (.error fault, after)) :
    ∃ left, Sound references after left ∧ Reduces references tree.numbered left ∧
      tree.leftIn after = left.map fun id => ⟨id, after.live.position? id⟩ := by
  obtain ⟨sound, tag, -⟩ := program.sound names
  have met := @meets_dispatch references { live := (LiveTree.ofTree tree).2 } _ entry sound
  rw [Meets, ← dispatched, stopped] at met
  obtain ⟨left, sound', leads⟩ := met.leaves
  have root := (leads.reduces.root_eq sound.root).1
  refine ⟨left, sound', leads.reduces, ?_⟩
  rw [leftIn, ← tag, ← root]
  exact sound'.reads.toTree_eq sound'.distinct

/-- The nodes of a program keep their positions. -/
theorem position?_after (entry : String) (references : List NodeId) {id : NodeId}
    (old : id < (LiveTree.ofTree tree).2.size) :
    (tree.dispatched entry references).2.live.position? id =
      (LiveTree.ofTree tree).2.position? id := by
  have kept := (lasting_positions { live := (LiveTree.ofTree tree).2 }).upholds_dispatch entry
    references _ ⟨Nat.le_refl _, fun _ _ => rfl⟩
  rw [Meets, ← dispatched] at kept
  split at kept <;> rename_i same <;> rw [same]
  · exact kept.1.2 id old
  · exact kept.2 id old

/-- A node that is left behind and was there before is as it was. -/
theorem tag_mem_of_left (program : tree.IsProgram) (names : NamesIn references tree)
    (stopped : tree.dispatched entry references = (.error fault, after)) {tag : LiveTree.Tag}
    (left : tag ∈ (tree.leftIn after).tags) (old : tag.id ∈ tree.numbered.tags) :
    tag ∈ (tree.leftIn { live := (LiveTree.ofTree tree).2 }).tags := by
  have numbers := numbering tree
  obtain ⟨_, -, -, holds⟩ := exists_left program names stopped
  rw [holds, tags_map] at left
  obtain ⟨id, -, rfl⟩ := List.mem_map.mp left
  have position := @position?_after tree entry references id (numbers.reads.lt_size old)
  rw [stopped] at position
  rw [numbers.leftIn_eq, tags_map, position]
  exact List.mem_map_of_mem old

/-- **A run that stops leaves only whole expansions behind.** What is left has the shape of the
program with exactly those chains expanded in one recursion that were noted as expanded, which all
are listed and well-formed. Outside of these chains every node is there with its number, its
position, its label and its children, and a part without such chains is as it was. Every other
listed name stands in the nodes that were around it. -/
theorem dispatched_stopped (program : tree.IsProgram) (names : NamesIn references tree)
    (stopped : tree.dispatched entry references = (.error fault, after)) :
    (tree.leftIn after).shape = (expand (tree.numbered.map after.processed.contains)).shape ∧
    (∀ id ∈ after.processed, id ∈ references ∧ tree.numbered.opensChain id = true) ∧
    Keeps references after.processed tree.numbered ((tree.leftIn after).map LiveTree.Tag.id) ∧
    (∀ part part', Keeps references after.processed part part' →
      Unlisted after.processed part → part' = part) ∧
    (∀ tag ∈ (tree.leftIn after).tags, tag.id ∈ tree.numbered.tags →
      tag ∈ (tree.leftIn { live := (LiveTree.ofTree tree).2 }).tags) ∧
    ∀ id ∈ references, id ∉ after.processed → ∃ context context' name usage,
      tree.numbered = Context.fill context (.node id (.name name usage) []) ∧
      (tree.leftIn after).map LiveTree.Tag.id =
        Context.fill context' (.node id (.name name usage) []) ∧
      List.Forall₂ (FrameKept references after.processed) context context' := by
  obtain ⟨sound, -, -⟩ := program.sound names
  obtain ⟨left, sound', reduces, holds⟩ := exists_left program names stopped
  have ids : (tree.leftIn after).map LiveTree.Tag.id = left := by
    rw [holds, map_map]
    exact map_id left
  have inside : ∀ id ∈ references, id ∈ tree.numbered.tags := fun id member =>
    (sound.pending id member).mpr List.not_mem_nil
  have subset : after.processed ⊆ references := sound'.processed.2
  have gone : ∀ id ∈ references, id ∈ tree.numbered.tags → id ∉ left.tags →
      id ∈ after.processed := fun id member _ outside => by
    by_contra absent
    exact outside ((sound'.pending id member).mpr absent)
  have unlisted : Unlisted after.processed left := fun id still member =>
    (sound'.pending id (subset member)).mp still member
  have keeps := Reduces.keeps reduces subset gone unlisted
  refine ⟨?_, fun id member => ⟨subset member, ?_⟩, ids ▸ keeps,
    fun part part' kept => kept.eq_of_unlisted,
    fun tag still => tag_mem_of_left program names stopped still, fun id member waiting => ?_⟩
  · rw [← shape_map LiveTree.Tag.id, ids]
    exact Reduces.shape_eq (Reduces.restrict reduces subset gone) unlisted
  · exact Reduces.opens_gone reduces (subset member) (inside id (subset member)) fun still =>
      unlisted id still member
  · obtain ⟨name, usage, context, same⟩ :=
      sound.exists_fill (self_mem_preorder _) member (inside id member)
    rw [same] at keeps
    have here : ∃ other ∈ (Tree.node id (.name name usage) []).tags,
        other ∈ references ∧ other ∉ after.processed := ⟨id, tag_mem_tags _, member, waiting⟩
    obtain ⟨context', leaf, left_eq, frames, kept⟩ := keeps.exists_fill here
    refine ⟨context, context', name, usage, same, ids.trans (left_eq.trans ?_), frames⟩
    rw [kept.eq_of_unlisted fun other within => ?_]
    rw [tags_node, tagsIn_nil] at within
    exact List.mem_singleton.mp within ▸ waiting

/-- The program `when(a).then(when(b).else_(c).end())`, whose outer chain has no end. -/
def endlessAround : SourceTree :=
  stating (continuing (opening "when" (reading "a")) "then"
    [continuing (continuing (opening "when" (reading "b")) "else_" [reading "c"]) "end" []])

/-- The inner chain of a program is expanded as a whole before the outer one is found to have no
end, and the outer one is left as it was. -/
theorem dispatched_stopped_endlessAround :
    endlessAround.IsProgram ∧ NamesIn [0, 4] endlessAround ∧ ∃ fault after,
      endlessAround.dispatched "when" [0, 4] = (.error fault, after) ∧ after.processed = [4] ∧
      (endlessAround.leftIn after).shape =
        (expand (endlessAround.numbered.map [4].contains)).shape := by
  have program : endlessAround.IsProgram := by decide
  have names : NamesIn [0, 4] endlessAround := by decide
  have stopped : endlessAround.dispatched "when" [0, 4] =
      (.error (.shape (.unterminated "when") {}), (endlessAround.dispatched "when" [0, 4]).2) :=
    Prod.ext (by decide +kernel) rfl
  have processed : (endlessAround.dispatched "when" [0, 4]).2.processed = [4] := by decide +kernel
  have shape := (dispatched_stopped program names stopped).1
  rw [processed] at shape
  exact ⟨program, names, _, _, stopped, processed, shape⟩

end Tree

end IfChains
