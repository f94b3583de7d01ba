/-
**Which programs are accepted, and which uses of a name are left.**

The names bound to the macro are done with one after the other. The chains of a name are accepted
exactly if all references to it open chains in the tree as it then is. So the first name, and the
only name of a program that has one, is judged by the program as it is written. A further name is
judged by what the names before it have left: an alternate branch that their `else_if` has dropped is
gone, whatever references it held.

Once the chains of a name are expanded, no reference to it is left. Where the name is still read, it
was shadowed in the program as it is written.

* `exists_expandName_iff`: when the chains of one name are accepted;
* `rewritten_single_isSome`: when a program with one name is accepted;
* `rewritten_eq_none`: a malformed chain of the first name is always refused;
* `shadowed_of_left`: what is left of a name was shadowed;
* `resolve_isSome_of_left`: what is left of a name means something other than the macro.
-/

import IfChains.Proofs.Scope.Resolution
import IfChains.Proofs.Transform.Legality

namespace IfChains

open IfChains.Tree IfChains.Walk

namespace Transform

open NumberedTree

variable {file module name : String} {tree : SourceTree} {state : WalkState}
  {numbered : NumberedTree}

/-- **The chains of one name are accepted** exactly if all references to it open chains in the tree
as it is. -/
theorem exists_expandName_iff (file module name : String)
    (sound : Sound [] { state with processed := [] } numbered) :
    (∃ count after, (expandName file module numbered.tag name).outcome state = (.ok count, after)) ↔
      ∀ id ∈ referencesTo module name numbered.tag state.live, numbered.opensChain id = true := by
  have met := meets_expandName file module name sound
  rw [Meets] at met
  constructor
  · rintro ⟨count, after, outcome⟩ id member
    rw [outcome] at met
    obtain ⟨left, -, -, reduces, unlisted⟩ := met
    refine reduces.opens_gone member ?_ fun still => unlisted id still member
    exact ((sound_referencesTo module name sound).pending id member).mpr List.not_mem_nil
  · intro opens
    split at met
    · exact ⟨_, _, ‹_›⟩
    · obtain ⟨-, id, member, malformed⟩ := met
      exact absurd (malformed.symm.trans (opens id member)) Bool.false_ne_true

/-- The chains of the first name are judged by the program as it is written. -/
theorem exists_expandName_program_iff (file module name : String) (program : tree.IsProgram) :
    (∃ count after, (expandName file module (LiveTree.ofTree tree).1 name).outcome
      { live := (LiveTree.ofTree tree).2 } = (.ok count, after)) ↔
      ∀ id ∈ referencesTo module name (LiveTree.ofTree tree).1 (LiveTree.ofTree tree).2,
        tree.numbered.opensChain id = true := by
  have none : NamesIn [] tree := fun _ absent => absurd absent List.not_mem_nil
  obtain ⟨sound, root, -⟩ := program.sound none
  rw [← root]
  exact exists_expandName_iff file module name sound

/-- **A program with one name is accepted** exactly if all references to that name open chains in the
program as it is written. -/
theorem rewritten_single_isSome (program : tree.IsProgram) :
    (rewritten file module [name] tree).isSome ↔
      ∀ id ∈ referencesTo module name (LiveTree.ofTree tree).1 (LiveTree.ofTree tree).2,
        tree.numbered.opensChain id = true := by
  rw [← exists_expandName_program_iff file module name program, rewritten]
  simp only [expandNames]
  split <;> rename_i same <;> split at same <;> rename_i outcome
  · exact iff_of_true rfl ⟨_, _, outcome⟩
  · cases same
  · cases same
  · refine iff_of_false Bool.false_ne_true ?_
    rintro ⟨count, after, returned⟩
    cases outcome.symm.trans returned

/-- **A malformed chain of the first name** is refused, whatever other names there are. -/
theorem rewritten_eq_none (program : tree.IsProgram) (rest : List String) {id : NodeId}
    (member : id ∈ referencesTo module name (LiveTree.ofTree tree).1 (LiveTree.ofTree tree).2)
    (malformed : tree.numbered.opensChain id = false) :
    rewritten file module (name :: rest) tree = none := by
  rw [rewritten]
  simp only [expandNames]
  split <;> rename_i same <;> split at same <;> rename_i outcome
  · have opens :=
      (exists_expandName_program_iff file module name program).mp ⟨_, _, outcome⟩ id member
    exact absurd (malformed.symm.trans opens) Bool.false_ne_true
  · cases same
  · rfl
  · rfl

section Leaving

variable {printed node : Tree LiveTree.Tag}

/-- **The references to a name in a table** are what is read and not shadowed in the tree that the
table shows. -/
theorem mem_referencesTo_iff {live : LiveTree} {root id : NodeId}
    (conforming : (live.toTree root).Conforming) : id ∈ referencesTo module name root live ↔
      ∃ context node, live.toTree root = Context.fill context node ∧ node.tag.id = id ∧
        node.label = .name name .load ∧
        ¬Scope.Shadowed name module (Scope.scopes context node) := by
  have fits : Scope.Fits name module (.plain {}) [] (live.toTree root) :=
    ⟨Scope.agrees_module, Scope.agrees_module⟩
  have collected := Scope.collect_perm (live.toTree root) [] conforming fits
  rw [referencesTo, Scope.references, List.mem_map]
  constructor
  · rintro ⟨tag, member, rfl⟩
    rw [List.mem_mergeSort, collected.mem_iff] at member
    obtain ⟨⟨context, node⟩, inside, rfl⟩ := List.mem_map.mp member
    obtain ⟨place, reference⟩ := List.mem_filter.mp inside
    obtain ⟨deeper, rfl, same⟩ := mem_places.mp place
    obtain ⟨label, free⟩ := of_decide_eq_true reference
    exact ⟨deeper ++ [], node, by rwa [List.append_nil], rfl, label, free⟩
  · rintro ⟨context, node, same, rfl, label, free⟩
    refine ⟨node.tag, ?_, rfl⟩
    rw [List.mem_mergeSort, collected.mem_iff]
    refine List.mem_map.mpr ⟨(context, node), List.mem_filter.mpr ⟨?_, ?_⟩, rfl⟩
    · exact mem_places.mpr ⟨context, (List.append_nil context).symm, same⟩
    · exact decide_eq_true ⟨label, free⟩

/-- **No reference to the only name is left** in the tree that the table reads in the end, which has
come by expansions. -/
theorem exists_unlisted (program : tree.IsProgram)
    (rewrites : rewritten file module [name] tree = some printed) :
    ∃ (live : LiveTree) (whole : NumberedTree), (LiveTree.ofTree tree).2.Expanded live ∧
      live.Reads whole ∧ printed = left module live whole ∧
      Unlisted (referencesTo module name (LiveTree.ofTree tree).1 (LiveTree.ofTree tree).2)
        whole := by
  obtain ⟨progress, done, rfl⟩ := exists_progress rewrites
  have expanded := @expanded_expandNames _ file module (LiveTree.ofTree tree).1 [name]
    ⟨{ live := (LiveTree.ofTree tree).2 }, 0⟩ (LiveTree.expanded_refl _)
  rw [done] at expanded
  have none : NamesIn [] tree := fun _ absent => absurd absent List.not_mem_nil
  obtain ⟨sound, root, -⟩ := program.sound none
  rw [← root] at done ⊢
  have met : Walk.Meets (expandName file module tree.numbered.tag name)
    { live := (LiveTree.ofTree tree).2 } _ _ := meets_expandName file module name sound
  simp only [expandNames] at done
  split at done <;> rename_i outcome
  · have returned : (expandName file module tree.numbered.tag name).outcome _ = _ := outcome
    rw [Walk.Meets, returned] at met
    obtain ⟨whole, sound', tag, -, unlisted⟩ := met
    obtain rfl := (Prod.mk.inj done).2
    refine ⟨_, whole, expanded, sound'.reads, ?_, unlisted⟩
    rw [left, ← tag]
    exact congrArg _ (sound'.reads.toTree_eq sound'.distinct)
  · cases done

/-- An expansion makes no names. -/
theorem old_of_name {start live : LiveTree} (expanded : start.Expanded live) {id : NodeId}
    {usage : Usage} (label : live.label id = .name name usage) :
    id < start.size ∧ start.label id = .name name usage := by
  have known : id < live.size := LiveTree.lt_size_of_label (by rw [label]; nofun)
  rcases Nat.lt_or_ge id start.size with old | new
  · exact ⟨old, (expanded.label id old).symm.trans label⟩
  · have makes := expanded.made id known new
    rw [label] at makes
    exact makes.elim

/-- The table of a program shows a conforming tree. -/
theorem conforming_leftIn (program : tree.IsProgram) :
    (tree.leftIn { live := (LiveTree.ofTree tree).2 }).Conforming := by
  have numbers := numbering tree
  rw [numbers.leftIn_eq, conforming_map]
  exact (conforming_of_shape_eq numbers.shape).mpr program.conforming

/-- **What is left of the only name was shadowed** in the program as it is written. -/
theorem shadowed_of_left (program : tree.IsProgram)
    (rewrites : rewritten file module [name] tree = some printed)
    (member : node ∈ printed.preorder) (label : node.label = .name name .load) :
    ∃ context before,
      tree.leftIn { live := (LiveTree.ofTree tree).2 } = Context.fill context before ∧
      before.tag.id = node.tag.id ∧ before.label = .name name .load ∧
      Scope.Shadowed name module (Scope.scopes context before) := by
  obtain ⟨live, whole, expanded, reads, rfl, unlisted⟩ := exists_unlisted program rewrites
  rcases mem_left member with rfl | ⟨other, among, rfl⟩
  · exact nomatch label
  rw [label_left, ← (reads.of_mem among).label] at label
  rw [tag_left]
  obtain ⟨old, label⟩ := old_of_name expanded label
  have numbers := numbering tree
  obtain ⟨inner, inside, tag, itsLabel⟩ := numbers.exists_node old
  obtain ⟨context, filled⟩ := exists_fill inside
  have shown := numbers.leftIn_eq
  rw [filled, map_fill] at shown
  refine ⟨_, _, shown, by rw [tag_map, tag], by rw [label_map, itsLabel, label], ?_⟩
  by_contra free
  refine unlisted other.tag (mem_tags_of_mem among (tag_mem_tags other)) ?_
  exact (mem_referencesTo_iff (conforming_leftIn program)).mpr
    ⟨_, _, shown, by rw [tag_map, tag], by rw [label_map, itsLabel, label], free⟩

/-- **What is left of the only name means something other than the macro.** In the program without
imports of the macro it resolves to a scope, unless a scope around it declares that the name belongs
to the module, or is a comprehension with an assignment expression in its targets. -/
theorem resolve_isSome_of_left (program : tree.IsProgram)
    (rewrites : rewritten file module [name] tree = some printed)
    (member : node ∈ printed.preorder) (label : node.label = .name name .load) :
    ∃ context before,
      tree.leftIn { live := (LiveTree.ofTree tree).2 } = Context.fill context before ∧
      before.tag.id = node.tag.id ∧
      ((∀ scope ∈ Scope.scopes context before, Scope.Unassigned scope ∧
          ¬Scope.Declares module Scope.globalNames name scope) →
        (Scope.resolve (Scope.boundOtherwise module) module name false
          (Scope.scopes context before)).isSome = true) := by
  obtain ⟨context, before, shown, tag, -, shadowed⟩ :=
    shadowed_of_left program rewrites member label
  refine ⟨context, before, shown, tag, fun ordinary => ?_⟩
  refine Scope.resolve_isSome_of_shadowed (fun _ => List.Subset.refl _) (fun scope around => ?_)
    (fun scope around => (ordinary scope around).1) (fun scope around => (ordinary scope around).2)
    shadowed
  have conforming := conforming_leftIn program
  rw [shown] at conforming
  exact conforming.of_mem (Scope.mem_preorder_of_scopes around)

end Leaving

/-- The program `If(c).then(a).else_(J(b)).else_if(d).then(e).end()`. -/
def droppedAlternate : SourceTree :=
  stating (continuing (continuing (continuing (continuing (continuing (opening "If" (reading "c"))
    "then" [reading "a"]) "else_" [opening "J" (reading "b")]) "else_if" [reading "d"])
    "then" [reading "e"]) "end" [])

-- The order of the names matters: a dropped branch hides a malformed chain of a later name.
example : (rewritten "" "ifexpr.macro" ["If", "J"] droppedAlternate).isSome ∧
    (rewritten "" "ifexpr.macro" ["J", "If"] droppedAlternate).isNone := by
  decide +kernel

end Transform

end IfChains
