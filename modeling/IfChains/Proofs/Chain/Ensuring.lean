/-
**Expanding what is inside the arguments of a call**, whatever has happened before.

A walk may have expanded some chains of a program and have been refused others, and other walks may
have changed the tree. If it then expands the chains of some names inside the arguments of a call of
the tree, and returns, all of these chains are expanded and no other one is. The call keeps its
arguments, each in its place and unpacked if it was, and an argument without such names is left
alone.

* `Reached`: the states that a walk comes to;
* `Reached.noted`: the names that count as expanded in them have lost their chains;
* `Reached.exists_standing`: the tree in them is that of a program;
* `ensured_arguments`: **what expanding the chains inside the arguments of a call does.**
-/

import IfChains.Proofs.Chain.Building
import IfChains.Proofs.Chain.Faults
import IfChains.Proofs.Chain.Lost

namespace IfChains

open IfChains.Tree IfChains.Walk

namespace Tree

open LiveTree NumberedTree

variable {tree : SourceTree} {state after : WalkState} {entry : String}
  {references remaining : List NodeId}

/-- The states that a walk comes to on the tree of a program. At first no chain is expanded. The walk
is asked to expand the chain of a name, those of a list of names, or those of names inside the
arguments of a call, and may refuse each time. On its way it makes undefined values. And other walks
answer whatever they are asked. -/
inductive Reached (tree : SourceTree) : WalkState → Prop
  | planted : Reached tree { live := (ofTree tree).2 }
  | expand {state : WalkState} (reached : Reached tree state) (entry : String)
      (reference : NodeId) (remaining : List NodeId) (names : NamesIn (reference :: remaining) tree) :
      Reached tree ((Expansion.processReference entry reference remaining).outcome state).2
  | dispatch {state : WalkState} (reached : Reached tree state) (entry : String)
      (references : List NodeId) (names : NamesIn references tree) :
      Reached tree ((Expansion.dispatch entry references).outcome state).2
  | ensure {state : WalkState} (reached : Reached tree state) (entry : String) (call : NodeId)
      (remaining : List NodeId) (names : NamesIn remaining tree) :
      Reached tree
        ((Expansion.ensureArguments (Expansion.processReference entry) call remaining).outcome state).2
  | undefined {state : WalkState} (reached : Reached tree state) :
      Reached tree (Walk.undefined.outcome state).2
  | elsewhere {state : WalkState} (reached : Reached tree state) (request : Request) :
      Reached tree { state with live := request.leaves state.live }

section Reaching

/-- Names of a program are names in its table. -/
theorem NamesIn.label (names : NamesIn references tree) :
    ∀ id ∈ references, ∃ name usage, (ofTree tree).2.label id = .name name usage := by
  intro id member
  obtain ⟨node, inside, rfl, name, usage, label⟩ := names id member
  exact ⟨name, usage, ((numbering tree).reads.of_mem inside).label.trans label⟩

/-- What the expansion of one reference keeps is kept all the time. -/
theorem Reached.held (reached : Reached tree state) (holds : LiveTree → Prop)
    (planted : holds (ofTree tree).2)
    (resolves : ∀ entry depth reference remaining, Upholds (fun state => holds state.live)
      (Expansion.resolver entry depth reference remaining) fun _ => True)
    (undefined : Upholds (fun state => holds state.live) Walk.undefined fun _ => True) :
    holds state.live := by
  induction reached with
  | planted => exact planted
  | expand _ entry reference remaining _ ih =>
    exact (resolves entry (remaining.length + 1) reference remaining).after ih
  | dispatch _ entry references _ ih =>
    exact (upholds_dispatch (fun depth reference later _ => resolves entry depth reference later)
      fun _ held _ => held).after ih
  | ensure _ entry call remaining _ ih =>
    exact (upholds_ensureArguments (fun reference later =>
      resolves entry (later.length + 1) reference later) call remaining).after ih
  | undefined _ ih => exact undefined.after ih
  | elsewhere _ request ih => exact request.held holds resolves ih

/-- **The names that count as expanded** are different ones, and their chains are gone. -/
theorem Reached.noted (reached : Reached tree state) :
    Noted (ofTree tree).2 (ofTree tree).1 state.live state.processed := by
  obtain ⟨whole, known, rootless⟩ := whole_ofTree tree
  induction reached with
  | planted => exact ⟨⟨_, _, whole.traced rootless⟩, List.nodup_nil, fun _ absurd => nomatch absurd⟩
  | expand _ entry reference remaining names ih =>
    exact (upholds_resolver_noted whole known names.label entry (remaining.length + 1) reference
      remaining (List.Subset.refl _)).after ih
  | dispatch _ entry references names ih =>
    exact (upholds_dispatch (upholds_resolver_noted whole known names.label entry)
      fun _ noted fewer => ⟨noted.traced, noted.distinct.sublist fewer, fun id member =>
        noted.gone id (fewer.subset member)⟩).after ih
  | ensure _ entry call remaining names ih =>
    exact (upholds_ensureArguments_of_subset (fun reference later subset =>
      upholds_resolver_noted whole known names.label entry (later.length + 1) reference later subset)
      call).after ih
  | undefined _ ih => exact (making_noted _ _).upholds_undefined.after ih
  | @elsewhere state _ request ih =>
    obtain ⟨traced, gone⟩ := request.held
      (fun live => (∃ home spent, Traced (ofTree tree).2 live (ofTree tree).1 home spent) ∧
        ∀ id ∈ {id | Lost (ofTree tree).2 state.live id}, Lost (ofTree tree).2 live id)
      (fun entry => upholds_resolver_lost whole known entry _) ⟨ih.traced, fun _ lost => lost⟩
    refine ⟨traced, ih.distinct, fun id member => ?_⟩
    obtain ⟨isName, head, slot, lost⟩ := ih.gone id member
    exact ⟨isName, head, slot, gone head lost⟩

/-- The table has come by expansions from that of the program. -/
theorem Reached.expanded (reached : Reached tree state) :
    (ofTree tree).2.Expanded state.live :=
  reached.held ((ofTree tree).2.Expanded) (expanded_refl _)
    (fun entry => expands_resolver entry) ((expands_constant .none).imp fun _ _ => trivial)

end Reaching

section Standing

/-- The arguments of a program's calls are expressions. -/
theorem IsProgram.composes (program : tree.IsProgram) :
    (ofTree tree).2.Composes (ofTree tree).2 := by
  have numbers := numbering tree
  have conforming := (conforming_of_shape_eq numbers.shape).mpr program.conforming
  refine ⟨Nat.le_refl _, fun _ _ => rfl, fun id isCall slot member role => Or.inr ?_,
    fun id known new => absurd known (Nat.not_lt_of_le new)⟩
  have known : id < (ofTree tree).2.size := lt_size_of_label (by simp [isCall])
  obtain ⟨node, isNode, rfl, label⟩ := numbers.exists_node known
  obtain ⟨child, isChild, -, childLabel⟩ := numbers.exists_child isNode member
  rw [← childLabel, (conforming node isNode).families _ isChild, label, isCall, role]
  rfl

/-- **The tree in a state is that of a program.** -/
theorem Reached.exists_standing (program : tree.IsProgram) (reached : Reached tree state) :
    ∃ standing : NumberedTree, NumberedTree.Stands state.live standing ∧
      standing.tag = (ofTree tree).1 := by
  have numbers := numbering tree
  obtain ⟨-, known, -⟩ := whole_ofTree tree
  obtain ⟨home, spent, traced⟩ := reached.noted.traced
  obtain ⟨standing, tag, reads, linked, distinct, -⟩ := traced.exists_tree known
  have composes : (ofTree tree).2.Composes state.live :=
    reached.held ((ofTree tree).2.Composes) program.composes
      (fun entry => (lasting_composes _).upholds_resolver entry)
      ((lasting_composes _).upholds_undefined.imp fun _ _ => trivial)
  have root : standing.label = .module := by
    rw [← reads.label, tag, traced.label _ known, numbers.label_root, program.root]
  have conforming : standing.Conforming := by
    refine composes.conforming reached.expanded (fun id known => ?_) reads
    obtain ⟨node, isNode, same, -⟩ := numbers.exists_node known
    exact ⟨node, numbers.reads.of_mem isNode, same,
      (conforming_of_shape_eq numbers.shape).mpr program.conforming node isNode⟩
  exact ⟨standing, ⟨reads, linked, tag ▸ traced.root, distinct, root, conforming⟩, tag⟩

/-- A state is sound for names in its tree, and those that count as expanded. -/
theorem Reached.sound (reached : Reached tree state) {standing : NumberedTree}
    (stands : NumberedTree.Stands state.live standing) (names : standing.HasNames remaining) :
    Sound (remaining ++ state.processed) state standing := by
  obtain ⟨whole, -, -⟩ := whole_ofTree tree
  have absent : ∀ id ∈ state.processed, id ∉ standing.tags := fun id member =>
    reached.noted.not_mem whole stands.reads stands.linked stands.rootless member
  refine ⟨stands.reads, stands.linked, stands.rootless, stands.distinct, stands.root,
    stands.conforming, fun id member => ?_, fun id member => ?_, reached.noted.distinct,
    List.subset_append_right _ _⟩
  · rcases List.mem_append.mp member with listed | expanded
    · obtain ⟨node, inside, rfl, name, usage, label⟩ := names id listed
      exact ⟨name, usage, (stands.reads.of_mem inside).label.trans label⟩
    · obtain ⟨⟨name, usage, label⟩, -⟩ := reached.noted.gone id expanded
      exact ⟨name, usage, (reached.expanded.label id (lt_size_of_label (by simp [label]))).trans label⟩
  · rcases List.mem_append.mp member with listed | expanded
    · obtain ⟨node, inside, rfl, -⟩ := names id listed
      have here := mem_tags_of_mem inside (tag_mem_tags node)
      exact iff_of_true here fun expanded => absent _ expanded here
    · exact iff_of_false (absent id expanded) fun pending => pending expanded

end Standing

section Positions

/-- A node is in a tree. -/
def Has (tree : Tree LiveTree.Tag) (id : NodeId) : Prop :=
  id ∈ (tree.map Tag.id).tags

instance (tree : Tree LiveTree.Tag) (id : NodeId) : Decidable (tree.Has id) :=
  inferInstanceAs (Decidable (id ∈ (tree.map Tag.id).tags))

/-- A tree with the positions that its nodes have in a table. -/
def withPositions (live : LiveTree) (tree : NumberedTree) : Tree LiveTree.Tag :=
  tree.map fun id => ⟨id, live.position? id⟩

variable {live live' : LiveTree} {numbered : NumberedTree}

/-- The numbers of a tree with positions. -/
@[simp]
theorem map_id_withPositions (live : LiveTree) (numbered : NumberedTree) :
    (withPositions live numbered).map Tag.id = numbered := by
  rw [withPositions, map_map]
  exact map_id numbered

theorem preorder_withPositions (live : LiveTree) (numbered : NumberedTree) :
    (withPositions live numbered).preorder = numbered.preorder.map (withPositions live) :=
  preorder_map _ numbered

theorem having_withPositions (live : LiveTree) (numbered : NumberedTree) (role : Role) :
    (withPositions live numbered).having role =
      (numbered.having role).map (withPositions live) :=
  having_map _ numbered role

theorem has_withPositions {id : NodeId} : (withPositions live numbered).Has id ↔ id ∈ numbered.tags := by
  rw [Has, map_id_withPositions]

/-- The tree in a state has the positions of its table. -/
theorem leftIn_eq (stands : NumberedTree.Stands state.live numbered)
    (tag : numbered.tag = (ofTree tree).1) :
    tree.leftIn state = withPositions state.live numbered := by
  rw [leftIn, ← tag]
  exact stands.reads.toTree_eq stands.distinct

/-- What is in the table keeps its position. -/
theorem position?_of_ensured {call : NodeId}
    (returned : (Expansion.ensureArguments (Expansion.processReference entry) call remaining).outcome
      state = (.ok (), after)) :
    ∀ id < state.live.size, after.live.position? id = state.live.position? id := by
  have lasting := lasting_positions state
  have resolves : ∀ reference later, Upholds _ (Expansion.processReference entry reference later) _ :=
    fun reference later => lasting.upholds_resolver entry (later.length + 1) reference later
  have met := upholds_ensureArguments resolves call remaining state ⟨Nat.le_refl _, fun _ _ => rfl⟩
  rw [Meets, returned] at met
  exact met.1.2

end Positions

section Ensuring

variable {outer : Context NodeId} {tag : NodeId} {children : Forest NodeId}

/-- The resolver that is handed to a walk is good for all lists. -/
theorem resolves_processReference (listed : List NodeId) (entry : String) (depth : Nat) :
    Resolves listed depth (Expansion.processReference entry) :=
  fun reference later state outer inside sound walled _ subset known within covered =>
    resolves_resolver entry (later.length + 1) reference later state outer inside sound walled
      (Nat.lt_succ_self _) subset known within covered

/-- **What expanding the chains inside the arguments of a call does** to the tree in a state. -/
theorem exists_ensured
    (sound : Sound (remaining ++ state.processed) state
      (Context.fill outer (.node tag .call children)))
    (inTree : ∀ id ∈ remaining, id ∈ (Context.fill outer (.node tag .call children)).tags)
    (returned : (Expansion.ensureArguments (Expansion.processReference entry) tag remaining).outcome
      state = (.ok (), after)) :
    ∃ children', Sound (remaining ++ state.processed) after
        (Context.fill outer (.node tag .call children')) ∧
      (Context.fill outer (.node tag .call children')).tag =
        (Context.fill outer (.node tag .call children)).tag ∧
      (∀ id ∈ remaining, (∃ argument ∈ inRole .args children, id ∈ argument.tags) →
        id ∈ after.processed ∧ id ∉ (Context.fill outer (.node tag .call children')).tags) ∧
      (∀ id ∈ after.processed, id ∉ state.processed → id ∈ remaining ∧
        ∃ argument ∈ inRole .args children, id ∈ argument.tags) ∧
      List.Forall₂ (fun argument argument' => argument'.isStarred = argument.isStarred ∧
          ((∀ id ∈ remaining, id ∈ argument.tags → id ∈ state.processed) → argument' = argument))
        (inRole .args children) (inRole .args children') := by
  -- A listed name in the tree is one of those that are given.
  have pending : ∀ id ∈ (Context.fill outer (.node tag .call children)).tags,
      id ∈ remaining ++ state.processed → id ∉ state.processed ∧ id ∈ remaining := by
    intro id here member
    have waiting := (sound.pending id member).mp here
    exact ⟨waiting, (List.mem_append.mp member).resolve_right waiting⟩
  have beneath : ∀ argument ∈ inRole .args children, ∀ id ∈ argument.tags,
      id ∈ tagsIn children ∧ id ∈ (Context.fill outer (.node tag .call children)).tags := by
    intro argument isArgument id inside
    have within : id ∈ tagsIn children :=
      mem_tagsIn.mpr ⟨(.args, argument), mem_inRole.mp isArgument, inside⟩
    refine ⟨within, mem_tags_fill.mpr (Or.inr ?_)⟩
    rw [tags_node]
    exact List.mem_cons_of_mem _ within
  have met := meets_ensureArguments (resolves_processReference _ entry remaining.length)
    (Nat.le_refl _) (List.subset_append_left remaining state.processed) sound
    fun argument isArgument id inside member =>
      (pending id (beneath argument isArgument id inside).2 member).2
  rw [Meets, returned] at met
  obtain ⟨children', refined, rewrites, clean⟩ := met
  obtain ⟨-, distinct, apart⟩ := nodup_tags_fill.mp sound.distinct
  rw [tags_node, List.nodup_cons] at distinct
  refine ⟨children', rewrites.sound, (rewrites.leads.reduces.root_eq sound.root).1,
    ?_, fun id expanded new => ?_, ?_⟩
  · rintro id listed ⟨argument, isArgument, inside⟩
    have member := List.mem_append_left state.processed listed
    have within := (beneath argument isArgument id inside).1
    have gone : id ∉ (Context.fill outer (.node tag .call children')).tags := by
      rw [mem_tags_fill, tags_node, List.mem_cons]
      rintro (around | rfl | still)
      · exact apart around (tags_node tag .call children ▸ List.mem_cons_of_mem _ within)
      · exact distinct.1 within
      · exact refined.not_mem distinct.2 clean isArgument inside member still
    refine ⟨?_, gone⟩
    by_contra waiting
    exact gone ((rewrites.sound.pending id member).mpr waiting)
  · have member := rewrites.sound.processed.2 expanded
    have listed := (List.mem_append.mp member).resolve_right new
    have gone : id ∉ (Context.fill outer (.node tag .call children')).tags := fun still =>
      (rewrites.sound.pending id member).mp still expanded
    have here := inTree id listed
    rw [mem_tags_fill, tags_node, List.mem_cons, not_or, not_or] at gone
    rw [mem_tags_fill, tags_node, List.mem_cons] at here
    have within := (here.resolve_left gone.1).resolve_left gone.2.1
    exact ⟨listed, refined.exists_argument within gone.2.2⟩
  · refine ((List.forall₂_and_left _ _).mpr ⟨beneath, refined.arguments⟩).imp ?_
    rintro argument argument' ⟨here, refines⟩
    refine ⟨refines.starred.symm, fun none => ?_⟩
    refine (refines.spared fun id inside member => ?_).symm
    obtain ⟨waiting, listed⟩ := pending id (here id inside).2 member
    exact waiting (none id listed inside)

/-- **Nested resolution is complete and touches only what it must.** On the tree of a program, in
every state that a walk comes to, and for every call of the tree in that state and all names in it: if
expanding the chains of these names inside the arguments of the call returns, then each of the names
that was inside an argument counts as expanded and has left the tree, no other name has come to count
as expanded, and the call has the same arguments as before, unpacked where they were. An argument
that had none of the names in it, but for those that count as expanded, is the same as before, with
all that is beneath it. -/
theorem ensured_arguments (program : tree.IsProgram) (reached : Reached tree state)
    {call : Tree LiveTree.Tag} (inTree : call ∈ (tree.leftIn state).preorder)
    (isCall : call.label = .call)
    (names : HasNames ((tree.leftIn state).map Tag.id) remaining)
    (returned : (Expansion.ensureArguments (Expansion.processReference entry) call.tag.id
      remaining).outcome state = (.ok (), after)) :
    ∃ call' ∈ (tree.leftIn after).preorder, call'.tag = call.tag ∧ call'.label = call.label ∧
      (∀ id ∈ remaining, (∃ argument ∈ call.having .args, argument.Has id) →
        id ∈ after.processed ∧ ¬(tree.leftIn after).Has id) ∧
      (∀ id ∈ after.processed, id ∉ state.processed →
        id ∈ remaining ∧ ∃ argument ∈ call.having .args, argument.Has id) ∧
      List.Forall₂ (fun argument argument' => argument'.isStarred = argument.isStarred ∧
          ((∀ id ∈ remaining, argument.Has id → id ∈ state.processed) → argument' = argument))
        (call.having .args) (call'.having .args) := by
  obtain ⟨standing, stands, root⟩ := reached.exists_standing program
  rw [leftIn_eq stands root, map_id_withPositions] at names
  rw [leftIn_eq stands root, preorder_withPositions] at inTree
  obtain ⟨⟨tag, label, children⟩, among, rfl⟩ := List.mem_map.mp inTree
  obtain rfl : label = .call := isCall
  obtain ⟨outer, rfl⟩ := exists_fill among
  have inside : ∀ id ∈ remaining, id ∈ (Context.fill outer (.node tag .call children)).tags := by
    intro id listed
    obtain ⟨node, isNode, rfl, -⟩ := names id listed
    exact mem_tags_of_mem isNode (tag_mem_tags node)
  obtain ⟨children', sound, root', complete, only, arguments⟩ :=
    exists_ensured (reached.sound stands names) inside returned
  -- What was in the table has kept its position.
  have same : ∀ part ∈ (Tree.node tag .call children).preorder,
      withPositions after.live part = withPositions state.live part := by
    intro part isPart
    refine map_congr fun id member => ?_
    have known := stands.reads.lt_size (mem_tags_of_mem (mem_preorder_trans isPart among) member)
    rw [position?_of_ensured returned id known]
  rw [leftIn_eq sound.stands (root'.trans root)]
  refine ⟨withPositions after.live (.node tag .call children'), ?_, ?_, rfl, ?_, ?_, ?_⟩
  · rw [preorder_withPositions]
    exact List.mem_map_of_mem (mem_preorder_fill outer _)
  · have place := congrArg Tree.tag (same _ (self_mem_preorder _))
    exact place
  · simp only [having_withPositions, List.mem_map, exists_exists_and_eq_and, has_withPositions]
    exact complete
  · simp only [having_withPositions, List.mem_map, exists_exists_and_eq_and, has_withPositions]
    exact only
  · rw [having_withPositions, having_withPositions, List.forall₂_map_left_iff,
      List.forall₂_map_right_iff]
    refine ((List.forall₂_and_left _ _).mpr ⟨fun argument isArgument =>
      same argument (child_mem_preorder (mem_having.mp isArgument)), arguments⟩).imp
        fun argument argument' ⟨place, starred, spared⟩ => ⟨?_, fun none => ?_⟩
    · rw [withPositions, withPositions, isStarred_map, isStarred_map]
      exact starred
    · rw [spared fun id listed inside => none id listed (has_withPositions.mpr inside)]
      exact place

/-- The program `when(a).then_do(when(b).then(c).end(), when(d).then(e).end(), when(f)).end()`, the
last of whose inner chains has no end. -/
def endlessBeside : SourceTree :=
  stating (continuing (continuing (opening "when" (reading "a")) "then_do"
    [continuing (continuing (opening "when" (reading "b")) "then" [reading "c"]) "end" [],
      continuing (continuing (opening "when" (reading "d")) "then" [reading "e"]) "end" [],
      opening "when" (reading "f")]) "end" [])

/-- The call of `then` has a chain in its argument, and the chain that it belongs to is not inside
of it. So of both names only that of the inner chain comes to count as expanded. In the other
program the chain of `b` is expanded on request and that of `f`, which has no end, is refused. If
the chains inside the call of `then_do` are asked for after that, the chain of `d` is expanded, and
neither the outer chain nor the refused one is. -/
theorem ensured_arguments_nestedChains :
    (nestedChains.IsProgram ∧ Reached nestedChains { live := (ofTree nestedChains).2 } ∧ ∃ after,
      (Expansion.ensureArguments (Expansion.processReference "when") 12 [0, 4]).outcome
        { live := (ofTree nestedChains).2 } = (.ok (), after) ∧
      4 ∈ after.processed ∧ ¬(nestedChains.leftIn after).Has 4 ∧ 0 ∉ after.processed) ∧
    endlessBeside.IsProgram ∧ ∃ granted fault refused after,
      (Expansion.processReference "when" 4 []).outcome { live := (ofTree endlessBeside).2 } =
        (.ok true, granted) ∧
      (Expansion.processReference "when" 20 []).outcome granted = (.error fault, refused) ∧
      Reached endlessBeside refused ∧
      (Expansion.ensureArguments (Expansion.processReference "when") 23 [0, 12]).outcome refused =
        (.ok (), after) ∧
      12 ∈ after.processed ∧ ¬(endlessBeside.leftIn after).Has 12 ∧ 0 ∉ after.processed ∧
      20 ∉ after.processed := by
  constructor
  · have program : nestedChains.IsProgram := by decide
    have reached : Reached nestedChains { live := (ofTree nestedChains).2 } := .planted
    have names : HasNames ((nestedChains.leftIn { live := (ofTree nestedChains).2 }).map Tag.id)
        [0, 4] := by decide +kernel
    have present : ∃ call ∈ (nestedChains.leftIn { live := (ofTree nestedChains).2 }).preorder,
        call.label = .call ∧ call.tag.id = 12 ∧ (∃ argument ∈ call.having .args, argument.Has 4) ∧
          ∀ argument ∈ call.having .args, ¬argument.Has 0 := by decide +kernel
    obtain ⟨call, inTree, isCall, number, inner, notOuter⟩ := present
    obtain ⟨after, returned⟩ : ∃ after,
        (Expansion.ensureArguments (Expansion.processReference "when") 12 [0, 4]).outcome
          { live := (ofTree nestedChains).2 } = (.ok (), after) :=
      ⟨_, eq_ok_of_toOption (by decide +kernel)⟩
    obtain ⟨-, -, -, -, complete, only, -⟩ :=
      ensured_arguments program reached inTree isCall names (number ▸ returned)
    obtain ⟨expanded, gone⟩ := complete 4 (by decide) inner
    refine ⟨program, reached, after, returned, expanded, gone, fun outer => ?_⟩
    obtain ⟨-, argument, isArgument, inside⟩ := only 0 outer List.not_mem_nil
    exact notOuter argument isArgument inside
  · have program : endlessBeside.IsProgram := by decide
    let granted : WalkState :=
      ((Expansion.processReference "when" 4 []).outcome { live := (ofTree endlessBeside).2 }).2
    let refused : WalkState := ((Expansion.processReference "when" 20 []).outcome granted).2
    have grants : (Expansion.processReference "when" 4 []).outcome
        { live := (ofTree endlessBeside).2 } = (.ok true, granted) :=
      eq_ok_of_toOption (by decide +kernel)
    have fault : ((Expansion.processReference "when" 20 []).outcome granted).1 =
        .error (.shape (.unterminated "when") {}) := by decide +kernel
    have refuses : (Expansion.processReference "when" 20 []).outcome granted =
        (.error (.shape (.unterminated "when") {}), refused) := by
      rw [← fault]
    have reached : Reached endlessBeside refused :=
      (Reached.planted.expand "when" 4 [] (by decide)).expand "when" 20 [] (by decide)
    have names : HasNames ((endlessBeside.leftIn refused).map Tag.id) [0, 12] := by decide +kernel
    have present : ∃ call ∈ (endlessBeside.leftIn refused).preorder, call.label = .call ∧
        call.tag.id = 23 ∧ (∃ argument ∈ call.having .args, argument.Has 12) ∧
          ∀ argument ∈ call.having .args, ¬argument.Has 0 := by decide +kernel
    have counted : refused.processed = [4] := by decide +kernel
    obtain ⟨call, inTree, isCall, number, inner, notOuter⟩ := present
    have accepted : ((Expansion.ensureArguments (Expansion.processReference "when") 23
        [0, 12]).outcome refused).1.toOption = some () := by decide +kernel
    obtain ⟨after, returned⟩ : ∃ after,
        (Expansion.ensureArguments (Expansion.processReference "when") 23 [0, 12]).outcome refused =
          (.ok (), after) := ⟨_, eq_ok_of_toOption accepted⟩
    obtain ⟨-, -, -, -, complete, only, -⟩ :=
      ensured_arguments program reached inTree isCall names (number ▸ returned)
    obtain ⟨expanded, gone⟩ := complete 12 (by decide) inner
    refine ⟨program, granted, _, refused, after, grants, refuses, reached, returned, expanded, gone,
      fun outer => ?_, fun endless => ?_⟩
    · obtain ⟨-, argument, isArgument, inside⟩ := only 0 outer (by simp [counted])
      exact notOuter argument isArgument inside
    · obtain ⟨listed, -⟩ := only 20 endless (by simp [counted])
      exact absurd listed (by decide)

end Ensuring

end Tree

end IfChains
