/-
**Expanding what is inside the arguments of a call.**

The walk goes through the arguments of a call and, for each, through the references that are still
to come. A resolver is good up to a length if it expands the chain of a reference whenever the list
handed to it is shorter and holds all other listed names of the part of the tree that is walled off
by an argument.

* `meets_processArgument`: afterwards one argument holds no listed name;
* `Rewrites.eq_of_unlisted`: a part of the tree that held none from the beginning has not changed;
* `meets_ensureArguments`: afterwards no argument holds one, and nothing else has changed.
-/

import IfChains.Proofs.Chain.Sound

namespace IfChains

open IfChains.Tree IfChains.Walk

namespace NumberedTree

variable {listed : List NodeId} {state state' state'' : WalkState} {outer : Context NodeId}

/-- A walk leads from one filling of a context to another one. -/
structure Rewrites (listed : List NodeId) (outer : Context NodeId) (state : WalkState)
    (inside : NumberedTree) (state' : WalkState) (inside' : NumberedTree) : Prop where
  sound : Sound listed state' (Context.fill outer inside')
  leads : Leads listed state (Context.fill outer inside) state' (Context.fill outer inside')
  starred : inside'.isStarred = inside.isStarred

theorem Rewrites.refl {inside : NumberedTree}
    (sound : Sound listed state (Context.fill outer inside)) :
    Rewrites listed outer state inside state inside :=
  ⟨sound, .refl .., rfl⟩

theorem Rewrites.trans {inside inside' inside'' : NumberedTree}
    (first : Rewrites listed outer state inside state' inside')
    (second : Rewrites listed outer state' inside' state'' inside'') :
    Rewrites listed outer state inside state'' inside'' :=
  ⟨second.sound, first.leads.trans second.leads, second.starred.trans first.starred⟩

/-- The listed numbers inside were there before. -/
theorem Rewrites.mem_before {inside inside' : NumberedTree}
    (rewrites : Rewrites listed outer state inside state' inside') {id : NodeId}
    (member : id ∈ listed) (here : id ∈ inside'.tags) : id ∈ inside.tags :=
  rewrites.leads.mem_before rewrites.sound.distinct member here

/-- **A part of the tree without listed names has not changed.** -/
theorem Rewrites.eq_of_unlisted {inside inside' : NumberedTree}
    (rewrites : Rewrites listed outer state inside state' inside')
    (unlisted : Unlisted listed inside) : inside = inside' := by
  refine fill_injective outer (rewrites.leads.reduces.eq_of_kept fun id member among => ?_)
  have around := (mem_tags_fill.mp member).resolve_right fun within => unlisted id within among
  exact mem_tags_fill.mpr (Or.inl around)

/-- Once a reference is gone, the listed names inside are those that come later. -/
theorem Rewrites.covered {inside inside' : NumberedTree} {reference : NodeId} {later : List NodeId}
    (rewrites : Rewrites listed outer state inside state' inside')
    (gone : reference ∉ inside'.tags)
    (covered : ∀ id ∈ inside.tags, id ∈ listed → id ∈ reference :: later) :
    ∀ id ∈ inside'.tags, id ∈ listed → id ∈ later := by
  intro id here member
  have before := covered id (rewrites.mem_before member here) member
  exact (List.mem_cons.mp before).resolve_left fun same => gone (same ▸ here)

/-- A context that ends a climb along a chain, since its hole is an argument. -/
def Walled (outer : Context NodeId) : Prop :=
  ∀ frame ∈ outer.head?, frame.label = .call ∧ frame.role = .args

/-- A resolver expands the chain of a reference, if it is given a list of less than some length that
holds all other listed names inside a walled part of the tree. -/
def Resolves (listed : List NodeId) (depth : Nat) (resolve : Expansion.Resolver) : Prop :=
  ∀ (reference : NodeId) (later : List NodeId) (state : WalkState) (outer : Context NodeId)
    (inside : NumberedTree), Sound listed state (Context.fill outer inside) → Walled outer →
    later.length < depth → later ⊆ listed → reference ∈ listed → reference ∈ inside.tags →
    (∀ id ∈ inside.tags, id ∈ listed → id ∈ reference :: later) →
    Meets (resolve reference later) state
      (fun _ state' => ∃ inside', Rewrites listed outer state inside state' inside' ∧
        reference ∉ inside'.tags)
      (Blames listed state (Context.fill outer inside))

section OneArgument

variable {depth : Nat} {resolve : Expansion.Resolver} {tag : NodeId} {before after : Forest NodeId}

/-- The argument of a number. -/
theorem getElem?_arguments (argument : NumberedTree) :
    (((Tree.node tag .call (before ++ (.args, argument) :: after)).having .args).map
      Tree.tag)[(inRole .args before).length]? = some argument.tag := by
  rw [having_node, inRole_append, inRole_cons_same, List.map_append, List.map_cons,
    List.getElem?_append_right (Nat.le_of_eq (List.length_map ..)), List.length_map, Nat.sub_self]
  rfl

/-- **Expanding the chains inside one argument.** -/
theorem meets_processArgument (resolves : Resolves listed depth resolve) {argument : NumberedTree}
    {remaining : List NodeId}
    (sound : Sound listed state
      (Context.fill (⟨tag, .call, before, .args, after⟩ :: outer) argument))
    (short : remaining.length ≤ depth) (subset : remaining ⊆ listed)
    (covered : ∀ id ∈ argument.tags, id ∈ listed → id ∈ remaining) :
    Meets (Expansion.processArgument resolve tag (inRole .args before).length remaining) state
      (fun _ state' => ∃ argument', Rewrites listed (⟨tag, .call, before, .args, after⟩ :: outer)
        state argument state' argument' ∧ Unlisted listed argument')
      (Blames listed state (Context.fill (⟨tag, .call, before, .args, after⟩ :: outer) argument)) := by
  induction remaining generalizing state argument with
  | nil =>
    refine meets_pure ⟨argument, .refl sound, fun id inside member => ?_⟩
    exact absurd (covered id inside member) List.not_mem_nil
  | cons reference later ih =>
    rw [List.length_cons] at short
    obtain ⟨known, subset'⟩ := List.cons_subset.mp subset
    -- What remains to be done once the argument no longer holds the reference.
    have rest : ∀ state' argument', Rewrites listed (⟨tag, .call, before, .args, after⟩ :: outer)
        state argument state' argument' → reference ∉ argument'.tags →
        Meets (Expansion.processArgument resolve tag (inRole .args before).length later) state'
          (fun _ state'' => ∃ argument'', Rewrites listed
            (⟨tag, .call, before, .args, after⟩ :: outer) state argument state'' argument'' ∧
              Unlisted listed argument'')
          (Blames listed state
            (Context.fill (⟨tag, .call, before, .args, after⟩ :: outer) argument)) := by
      intro state' argument' rewrites gone
      refine (ih rewrites.sound (by omega) subset' (rewrites.covered gone covered)).imp ?_ ?_
      · rintro - state'' ⟨argument'', rewrites', unlisted⟩
        exact ⟨argument'', rewrites.trans rewrites', unlisted⟩
      · exact fun fault after blames => blames.before rewrites.leads
    have call : state.live.Reads (Tree.node tag .call (before ++ (.args, argument) :: after)) :=
      sound.reads.of_mem (mem_preorder_fill outer _)
    have arguments := @outcome_argumentsOf state _ call rfl
    unfold Expansion.processArgument
    refine meets_bind_ok (outcome_isProcessed reference) ?_
    by_cases processed : reference ∈ state.processed
    · have expanded : state.processed.contains reference = true := by simpa using processed
      rw [expanded]
      refine rest state argument (.refl sound) fun inside => ?_
      exact (sound.pending reference known).mp (mem_tags_fill.mpr (Or.inr inside)) processed
    · have pending : state.processed.contains reference = false := by simpa using processed
      have inTree := (sound.pending reference known).mpr processed
      rw [pending]
      refine meets_bind_ok arguments ?_
      rw [getElem?_arguments]
      refine meets_bind_ok outcome_live ?_
      have contains := LiveTree.contains_iff sound.reads sound.linked sound.rootless sound.distinct
        inTree
      by_cases inside : reference ∈ argument.tags
      · rw [contains.mpr inside]
        have walled : Walled (⟨tag, .call, before, .args, after⟩ :: outer) := by
          rintro frame ⟨rfl⟩
          exact ⟨rfl, rfl⟩
        have resolved := resolves reference later state _ argument sound walled (by omega) subset'
          known inside covered
        refine Meets.bind resolved fun expanded state' met => ?_
        obtain ⟨argument', rewrites, gone⟩ := met
        exact rest state' argument' rewrites gone
      · rw [Bool.eq_false_iff.mpr fun found => inside (contains.mp found)]
        exact rest state argument (.refl sound) inside

end OneArgument

section AllArguments

variable {depth : Nat} {resolve : Expansion.Resolver} {tag : NodeId}
  {children children' children'' : Forest NodeId}

/-- A child and what has become of it. Only an argument may have changed, and only if it held a
listed number. It has got none, and it is unpacked still if it was. -/
structure Refines (listed : List NodeId) (one two : Role × NumberedTree) : Prop where
  role : one.1 = two.1
  starred : one.2.isStarred = two.2.isStarred
  other : one.1 ≠ .args → one.2 = two.2
  within : ∀ id ∈ two.2.tags, id ∈ listed → id ∈ one.2.tags
  spared : Unlisted listed one.2 → one.2 = two.2

/-- Children and what has become of them. -/
abbrev Refined (listed : List NodeId) : Forest NodeId → Forest NodeId → Prop :=
  List.Forall₂ (Refines listed)

theorem Refined.refl (children : Forest NodeId) : Refined listed children children :=
  List.forall₂_same.mpr fun _ _ => ⟨rfl, rfl, fun _ => rfl, fun _ member _ => member, fun _ => rfl⟩

theorem Refines.trans {one two three : Role × NumberedTree} (first : Refines listed one two)
    (second : Refines listed two three) : Refines listed one three := by
  refine ⟨first.role.trans second.role, first.starred.trans second.starred, fun other => ?_,
    fun id inside member => first.within id (second.within id inside member) member,
    fun unlisted => ?_⟩
  · exact (first.other other).trans (second.other (first.role ▸ other))
  · have same := first.spared unlisted
    exact same.trans (second.spared (same ▸ unlisted))

theorem Refined.trans (first : Refined listed children children')
    (second : Refined listed children' children'') : Refined listed children children'' := by
  induction first generalizing children'' with
  | nil => exact second
  | cons same _ ih =>
    cases second with
    | cons same' rest => exact .cons (same.trans same') (ih rest)

/-- An argument is refined by the argument of the same number. -/
theorem Refined.arguments (refined : Refined listed children children') :
    List.Forall₂ (fun one two => Refines listed (.args, one) (.args, two))
      (inRole .args children) (inRole .args children') := by
  refine forall₂_inRole (refined.imp fun one two refines => ⟨refines.role, ?_⟩) .args
  exact ⟨rfl, refines.starred, fun other => absurd rfl other, refines.within, refines.spared⟩

/-- Without listed names an argument stays so. -/
theorem Refined.unlisted (refined : Refined listed children children') {index : Nat}
    (unlisted : ∀ argument, (inRole .args children)[index]? = some argument →
      Unlisted listed argument) :
    ∀ argument, (inRole .args children')[index]? = some argument → Unlisted listed argument := by
  intro argument found id inside member
  obtain ⟨bound, rfl⟩ := List.getElem?_eq_some_iff.mp found
  have bound' : index < (inRole .args children).length := by
    rwa [refined.arguments.length_eq]
  have within := (refined.arguments.get bound' bound).within
  exact unlisted _ (List.getElem?_eq_getElem bound') id (within id inside member) member

/-- A listed number in an argument is gone if no argument holds one any more. -/
theorem Refined.not_mem (refined : Refined listed children children')
    (distinct : (tagsIn children).Nodup)
    (clean : ∀ argument ∈ inRole .args children', Unlisted listed argument)
    {argument : NumberedTree} (isArgument : argument ∈ inRole .args children) {id : NodeId}
    (inside : id ∈ argument.tags) (member : id ∈ listed) : id ∉ tagsIn children' := by
  intro still
  obtain ⟨⟨role, tree⟩, among, within⟩ := mem_tagsIn.mp still
  obtain ⟨child, before, refines⟩ := exists_of_forall₂ refined among
  have same : child = (.args, argument) :=
    eq_of_mem_tags distinct before (mem_inRole.mp isArgument) (refines.within id within member) inside
  obtain rfl : .args = role := (congrArg Prod.fst same).symm.trans refines.role
  exact clean tree (mem_inRole.mpr among) id within member

/-- What is gone was in an argument. -/
theorem Refined.exists_argument (refined : Refined listed children children') {id : NodeId}
    (inside : id ∈ tagsIn children) (gone : id ∉ tagsIn children') :
    ∃ argument ∈ inRole .args children, id ∈ argument.tags := by
  obtain ⟨⟨role, tree⟩, among, within⟩ := mem_tagsIn.mp inside
  obtain ⟨child', after, refines⟩ := exists_of_forall₂ refined.flip among
  by_cases isArgument : role = .args
  · exact ⟨tree, mem_inRole.mpr (isArgument ▸ among), within⟩
  · have same : tree = child'.2 := refines.other isArgument
    exact absurd (mem_tagsIn.mpr ⟨child', after, same ▸ within⟩) gone

/-- An argument stands between other children. -/
theorem exists_split_argument {index : Nat} (bound : index < (inRole .args children).length) :
    ∃ before argument after, children = before ++ (.args, argument) :: after ∧
      (inRole .args before).length = index := by
  induction children generalizing index with
  | nil => exact absurd bound (Nat.not_lt_zero _)
  | cons child rest ih =>
    obtain ⟨role, tree⟩ := child
    by_cases here : role = .args
    · subst here
      rw [inRole_cons_same, List.length_cons] at bound
      cases index with
      | zero => exact ⟨[], tree, rest, rfl, rfl⟩
      | succ index =>
        obtain ⟨before, argument, after, rfl, rfl⟩ := ih (Nat.lt_of_succ_lt_succ bound)
        exact ⟨(.args, tree) :: before, argument, after, rfl, by rw [inRole_cons_same]; rfl⟩
    · rw [inRole_cons_other _ _ here] at bound
      obtain ⟨before, argument, after, rfl, rfl⟩ := ih bound
      exact ⟨(role, tree) :: before, argument, after, rfl, by rw [inRole_cons_other _ _ here]⟩

/-- Expanding the chains inside some arguments, one argument after the other. -/
theorem meets_forM_processArgument (resolves : Resolves listed depth resolve)
    {remaining : List NodeId} (short : remaining.length ≤ depth) (subset : remaining ⊆ listed)
    (indices : List Nat)
    (sound : Sound listed state (Context.fill outer (.node tag .call children)))
    (bounds : ∀ index ∈ indices, index < (inRole .args children).length)
    (covered : ∀ argument ∈ inRole .args children, ∀ id ∈ argument.tags, id ∈ listed →
      id ∈ remaining) :
    Meets (indices.forM fun index => Expansion.processArgument resolve tag index remaining) state
      (fun _ state' => ∃ children', Refined listed children children' ∧
        Rewrites listed outer state (.node tag .call children) state' (.node tag .call children') ∧
        ∀ index ∈ indices, ∀ argument, (inRole .args children')[index]? = some argument →
          Unlisted listed argument)
      (Blames listed state (Context.fill outer (.node tag .call children))) := by
  induction indices generalizing state children with
  | nil =>
    exact meets_pure ⟨children, .refl children, .refl sound, fun _ member =>
      absurd member List.not_mem_nil⟩
  | cons index rest ih =>
    obtain ⟨before, argument, after, rfl, rfl⟩ :=
      exists_split_argument (bounds index List.mem_cons_self)
    have inside : argument ∈ inRole .args (before ++ (.args, argument) :: after) :=
      mem_inRole.mpr (List.mem_append_right _ List.mem_cons_self)
    have sound' : Sound listed state
        (Context.fill (⟨tag, .call, before, .args, after⟩ :: outer) argument) := sound
    have first := meets_processArgument resolves sound' short subset (covered argument inside)
    refine Meets.bind first fun _ state' met => ?_
    obtain ⟨argument', rewrites, unlisted⟩ := met
    have refined : Refined listed (before ++ (.args, argument) :: after)
        (before ++ (.args, argument') :: after) :=
      List.rel_append (Refined.refl before) (.cons ⟨rfl, rewrites.starred.symm,
        fun other => absurd rfl other, fun id inside member => rewrites.mem_before member inside,
        rewrites.eq_of_unlisted⟩ (Refined.refl after))
    have lengths := refined.arguments.length_eq
    have rewrites' : Rewrites listed outer state
        (.node tag .call (before ++ (.args, argument) :: after)) state'
        (.node tag .call (before ++ (.args, argument') :: after)) :=
      ⟨rewrites.sound, rewrites.leads, rfl⟩
    refine (ih rewrites.sound (fun other member => ?_) ?_).imp ?_ ?_
    · exact lengths ▸ bounds other (List.mem_cons_of_mem _ member)
    · intro other among id inside member
      obtain ⟨number, bound, rfl⟩ := List.getElem_of_mem among
      have bound' := lengths.symm ▸ bound
      exact covered _ (List.getElem_mem bound') id
        ((refined.arguments.get bound' bound).within id inside member) member
    · rintro - state'' ⟨children', refined', rewrites'', clean⟩
      refine ⟨children', refined.trans refined', rewrites'.trans rewrites'', fun other among => ?_⟩
      rcases List.mem_cons.mp among with rfl | later
      · refine refined'.unlisted fun found same => ?_
        rw [inRole_append, inRole_cons_same, List.getElem?_append_right (Nat.le_refl _),
          Nat.sub_self] at same
        cases same
        exact unlisted
      · exact clean other later
    · exact fun fault after blames => blames.before rewrites.leads

/-- **Expanding the chains inside the arguments of a call.** -/
theorem meets_ensureArguments (resolves : Resolves listed depth resolve) {remaining : List NodeId}
    (short : remaining.length ≤ depth) (subset : remaining ⊆ listed)
    (sound : Sound listed state (Context.fill outer (.node tag .call children)))
    (covered : ∀ argument ∈ inRole .args children, ∀ id ∈ argument.tags, id ∈ listed →
      id ∈ remaining) :
    Meets (Expansion.ensureArguments resolve tag remaining) state
      (fun _ state' => ∃ children', Refined listed children children' ∧
        Rewrites listed outer state (.node tag .call children) state' (.node tag .call children') ∧
        ∀ argument ∈ inRole .args children', Unlisted listed argument)
      (Blames listed state (Context.fill outer (.node tag .call children))) := by
  have call : state.live.Reads (.node tag .call children) :=
    sound.reads.of_mem (mem_preorder_fill outer _)
  have arguments := @outcome_argumentsOf state _ call rfl
  refine meets_bind_ok arguments ?_
  rw [having_node, List.length_map]
  refine (meets_forM_processArgument resolves short subset _ sound
    (fun index member => List.mem_range.mp member) covered).imp ?_ fun _ _ blames => blames
  rintro - state' ⟨children', refined, rewrites, clean⟩
  refine ⟨children', refined, rewrites, fun argument member => ?_⟩
  obtain ⟨index, bound, rfl⟩ := List.getElem_of_mem member
  refine clean index (List.mem_range.mpr ?_) _ (List.getElem?_eq_getElem bound)
  rwa [refined.arguments.length_eq]

end AllArguments

end NumberedTree

end IfChains
