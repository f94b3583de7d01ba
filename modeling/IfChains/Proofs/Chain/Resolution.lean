/-
**Expanding the chain of a reference**, and the chains of a list.

* `Sound.replaced`: putting the conditional expression in the place of its chain keeps a state
  sound and is an expansion;
* `climbing_head`: the walk begins at the call of a reference, once its arguments are done;
* `meets_reach`: a walk comes to the end of a chain, which is then `Ready` to be replaced, or finds
  it malformed;
* `resolves_expandReference`: with a resolver for shorter lists, the chain of a reference is
  expanded or found to be malformed;
* `resolves_resolver`: a resolver with a bound on the depth of nested expansions is good up to that
  bound;
* `meets_processAll`: going through a list that holds all listed names leaves none of them;
* `meets_dispatch`: the chains of a list of references are expanded, or a name in it opens none.
-/

import IfChains.Proofs.Chain.Ascent
import IfChains.Proofs.Chain.Lasting
import Mathlib.Data.List.Dedup

namespace IfChains

open IfChains.Tree IfChains.Walk

namespace NumberedTree

variable {listed : List NodeId} {state state' : WalkState} {tree : NumberedTree}

section Replacing

variable {context : Context NodeId} {ended expr : NumberedTree} {chain : Chain NodeId NumberedTree}

/-- **Putting the conditional expression in the place of its chain.** -/
theorem Sound.replaced (sound : Sound listed state (Context.fill context ended))
    (expansion : Expansion listed context ended expr chain)
    (loose : Loose listed state.live expr)
    (distinct : (Context.fill context expr).tags.Nodup) : ∃ live,
      (replace ended.tag expr.tag).outcome state = (.ok (), { state with live := live }) ∧
      Sound listed { state with live := live, processed := chain.head :: state.processed }
        (Context.fill context expr) ∧
      live.size = state.live.size ∧ (∀ id, live.label id = state.live.label id) ∧
      ∀ id, id ∉ (Context.fill context ended).tags →
        live.content? id = state.live.content? id := by
  obtain ⟨frame, outer, rfl⟩ := expansion.exists_frame sound.root
  obtain ⟨live, replaced, size, reads, linked, content, parent⟩ :=
    LiveTree.exists_replace? sound.reads sound.linked sound.distinct loose.reads distinct
  obtain ⟨-, -, apart⟩ := nodup_tags_fill.mp distinct
  have inFrame : frame.tag ∈ Context.tags (frame :: outer) :=
    List.mem_append_left _ List.mem_cons_self
  have labels : ∀ id, live.label id = state.live.label id := by
    intro id
    by_cases same : id = frame.tag
    · have before := (sound.reads.of_mem (mem_preorder_fill outer (frame.fill ended))).label
      have after := (reads.of_mem (mem_preorder_fill outer (frame.fill expr))).label
      rw [same]
      exact after.trans before.symm
    · rw [LiveTree.label_eq, content id same, ← LiveTree.label_eq]
  have root : (Context.fill (frame :: outer) expr).tag =
      (Context.fill (frame :: outer) ended).tag := tag_fill_congr outer rfl
  have rootAround : (Context.fill (frame :: outer) ended).tag ∈ Context.tags (frame :: outer) :=
    tag_mem_tags_context outer
  refine ⟨live, outcome_replace replaced, ⟨reads, linked, ?_, distinct, ?_, ?_, ?_, ?_, ?_⟩, size, labels, ?_⟩
  · rw [root, parent _ (apart rootAround)]
    exact sound.rootless
  · have labels : (frame.fill expr).label = (frame.fill ended).label := rfl
    exact (label_fill_congr outer labels).trans sound.root
  · refine conforming_fill (frame :: outer) ?_ sound.conforming loose.conforming
    rw [expansion.label_ended, expansion.label_expr]
    rfl
  · intro id member
    simp only [labels]
    exact sound.names id member
  · intro id member
    rw [expansion.mem_iff member, sound.pending id member, List.mem_cons, not_or]
    exact And.comm
  · refine ⟨List.nodup_cons.mpr ⟨?_, sound.processed.1⟩,
      List.cons_subset.mpr ⟨expansion.head, sound.processed.2⟩⟩
    exact (sound.pending _ expansion.head).mp (mem_tags_fill.mpr (Or.inr expansion.head_mem))
  · exact fun id outside => content id fun same =>
      outside (mem_tags_fill.mpr (Or.inl (same ▸ inFrame)))

end Replacing

section Resolving

variable {depth : Nat} {resolve : Expansion.Resolver} {outer above : Context NodeId}
  {call call' : Frame NodeId} {inside head condition : NumberedTree} {later : List NodeId}

/-- Whether a node opens a chain is a matter of its context. -/
theorem opensChain_fill {context : Context NodeId}
    (distinct : (Context.fill context inside).tags.Nodup) :
    (Context.fill context inside).opensChain inside.tag = context.opensChain := by
  have absent : ∀ id ∈ Context.tags context, (id == inside.tag) = false := fun id member =>
    beq_eq_false_iff_ne.mpr fun same =>
      (nodup_tags_fill.mp distinct).2.2 member (same ▸ tag_mem_tags inside)
  rw [Tree.opensChain, contextOf?_fill_self absent (beq_self_eq_true _)]

/-- The chain of a reference is ready to be replaced: the walk has come to the call that ends it and
to the conditional expression that is to take the place of that call, and no listed name is left in
the arguments of the chain. -/
structure Ready (listed : List NodeId) (outer : Context NodeId) (reference : NodeId)
    (state : WalkState) (inside : NumberedTree) (state' : WalkState) (inner' : Context NodeId)
    (ended expr : NumberedTree) (chain : Chain NodeId NumberedTree) : Prop where
  rewrites : Rewrites listed outer state inside state' (Context.fill inner' ended)
  expansion : Expansion listed (inner' ++ outer) ended expr chain
  head : chain.head = reference
  loose : Loose listed state'.live expr
  distinct : (Context.fill (inner' ++ outer) expr).tags.Nodup
  origin : ∀ id ∈ expr.tags, id ∈ (Context.fill outer inside).tags ∨ state.live.size ≤ id

/-- A walk comes to a call and to what takes its place, and the chain of a reference is ready. -/
def ReadyFor (listed : List NodeId) (outer : Context NodeId) (reference : NodeId)
    (state : WalkState) (inside : NumberedTree) (result : Expansion.ChainResult)
    (state' : WalkState) : Prop :=
  ∃ inner' ended expr chain, result = ⟨ended.tag, expr.tag⟩ ∧
    Ready listed outer reference state inside state' inner' ended expr chain

/-- **What climbing to the end of a chain leads to**: the chain can be replaced. -/
theorem Climbed.ready {reference : NodeId} {inner inner' : Context NodeId}
    {position ended expr : NumberedTree} {steps : List (Step NumberedTree)}
    (climbed : Climbed listed state inner outer position condition {} ⟨reference, condition, []⟩
      state' inner' ended expr steps)
    (known : reference ∈ listed) (clean : Unlisted listed condition)
    (gathered : condition ∈ position.preorder)
    (inTree : position ∈ (Context.fill outer (Context.fill inner position)).preorder)
    (opens : (Context.fill outer (Context.fill inner position)).opensChain reference = true) :
    Ready listed outer reference state (Context.fill inner position) state' inner' ended expr
      ⟨reference, condition, steps⟩ := by
  have leads := climbed.rewrites.leads
  have distinct := climbed.rewrites.sound.distinct
  have here := (Chain.ofTree?_within climbed.reading).head
  have kept := leads.reduces.opens_kept known
    (mem_tags_of_mem (mem_preorder_fill_fill inner' outer ended) here)
  rw [opens] at kept
  have fills : Context.fill outer (Context.fill inner' ended) =
      Context.fill (inner' ++ outer) ended := (fill_append ..).symm
  refine ⟨climbed.rewrites, ⟨fills ▸ distinct, climbed.reading, known, climbed.only, ?_,
    fills ▸ kept.symm, climbed.image, climbed.loose.unlisted⟩, rfl, climbed.loose, ?_, ?_⟩
  · intro part member
    rcases List.mem_cons.mp member with rfl | later
    · exact clean
    · exact climbed.clean part later
  · rw [fills] at distinct
    refine nodup_tags_fill.mpr ⟨(nodup_tags_fill.mp distinct).1, climbed.distinct, ?_⟩
    intro id around inside
    rcases climbed.apart id inside with within | outside
    · exact (nodup_tags_fill.mp distinct).2.2 around within
    · rw [fills] at outside
      exact outside (mem_tags_fill.mpr (Or.inl around))
  · intro id inside
    rcases climbed.origin id inside with given | ⟨-, origin⟩
    · have condition_eq : (condition :: BranchSet.exprs ({} : BranchSet NumberedTree)) =
          [condition] := rfl
      rw [condition_eq, List.flatMap_singleton] at given
      exact Or.inl (mem_tags_of_mem inTree (mem_tags_of_mem gathered given))
    · exact origin

/-- **Replacing a chain that is ready.** -/
theorem Ready.replaced {reference : NodeId} {inside ended expr : NumberedTree}
    {inner' : Context NodeId} {chain : Chain NodeId NumberedTree}
    (ready : Ready listed outer reference state inside state' inner' ended expr chain) :
    ∃ live, (replace ended.tag expr.tag).outcome state' = (.ok (), { state' with live := live }) ∧
      Rewrites listed outer state inside
        { state' with live := live, processed := reference :: state'.processed }
        (Context.fill inner' expr) ∧
      reference ∉ (Context.fill inner' expr).tags := by
  obtain ⟨rewrites, expansion, rfl, loose, distinct, origin⟩ := ready
  have fills : Context.fill outer (Context.fill inner' ended) =
      Context.fill (inner' ++ outer) ended := (fill_append ..).symm
  have fills' : Context.fill outer (Context.fill inner' expr) =
      Context.fill (inner' ++ outer) expr := (fill_append ..).symm
  have leads := rewrites.leads
  obtain ⟨live, outcome, sound', size, labels, content⟩ :=
    (fills ▸ rewrites.sound).replaced expansion loose distinct
  rw [← fills'] at sound'
  refine ⟨live, outcome, ⟨sound', ⟨?_, ?_, ?_, ?_, ?_⟩, ?_⟩, ?_⟩
  · exact leads.reduces.tail ⟨inner' ++ outer, ended, expr, _, expansion, fills, fills'⟩
  · exact Nat.le_trans leads.grows (Nat.le_of_eq size.symm)
  · intro id old outside
    refine (content id fun within => ?_).trans (leads.kept id old outside)
    rw [← fills] at within
    exact (leads.tags id within).elim outside fun fresh => Nat.not_lt_of_le fresh old
  · exact fun id old => (labels id).trans (leads.labels id old)
  · intro id within
    rw [fills'] at within
    rcases mem_tags_fill.mp within with around | inside
    · refine leads.tags id ?_
      rw [fills]
      exact mem_tags_fill.mpr (Or.inl around)
    · exact origin id inside
  · exact (isStarred_fill_congr inner' expansion.isStarred_eq.symm).trans rewrites.starred
  · intro within
    have gone := (expansion.mem_iff expansion.head).mp (fills' ▸ mem_tags_fill.mpr (Or.inr within))
    exact gone.2 rfl

/-- A walk before which another one has led to its state. -/
theorem ReadyFor.after {reference : NodeId} {inside inside' : NumberedTree}
    {result : Expansion.ChainResult} {state'' : WalkState}
    (ready : ReadyFor listed outer reference state' inside' result state'')
    (rewrites : Rewrites listed outer state inside state' inside') :
    ReadyFor listed outer reference state inside result state'' := by
  obtain ⟨inner', ended, expr, chain, same, ready⟩ := ready
  refine ⟨inner', ended, expr, chain, same, rewrites.trans ready.rewrites, ready.expansion,
    ready.head, ready.loose, ready.distinct, fun id member => ?_⟩
  rcases ready.origin id member with old | fresh
  · exact rewrites.leads.tags id old
  · exact Or.inr (Nat.le_trans rewrites.leads.grows fresh)

/-- A walk in which only the remarks have changed further leads to the same. -/
theorem Rewrites.of_eq {state'' : WalkState} {inside' : NumberedTree}
    (rewrites : Rewrites listed outer state inside state' inside')
    (live : state''.live = state'.live) (processed : state''.processed = state'.processed) :
    Rewrites listed outer state inside state'' inside' := by
  have grown : LiveTree.Grown state'.live state''.live := live ▸ .refl _
  exact rewrites.trans ⟨rewrites.sound.grown grown processed, leads_grown _ grown, rfl⟩

/-- The call of a reference opens a chain of its condition. -/
theorem climbing_head {name : String} {usage : Usage} {reference : NodeId}
    (sound : Sound listed state (Context.fill outer (Context.fill above
      (call.fill (.node reference (.name name usage) [])))))
    (calls : Calls call) (keywords : call.others .keywords = [])
    (arguments : call.others .args = [condition]) (starred : condition.isStarred = false)
    (clean : Unlisted listed condition) (known : reference ∈ listed)
    (covered : ∀ id ∈ (Context.fill above (call.fill (.node reference (.name name usage) []))).tags,
      id ∈ listed → id ∈ reference :: later) :
    Climbing listed state above outer (call.fill (.node reference (.name name usage) [])) condition
      {} ⟨reference, condition, []⟩ later := by
  have whole := mem_preorder_fill_fill above outer
    (call.fill (.node reference (.name name usage) []))
  have conforms := sound.conforming _ whole
  have soundCall := sound
  rw [← fill_append] at soundCall
  have cleanArguments : ∀ argument ∈ call.others .args, Unlisted listed argument := by
    rw [arguments]
    exact List.forall_mem_singleton.mpr clean
  refine ⟨sound, ?_, known, ?_, List.forall_mem_singleton.mpr clean, ?_, ?_⟩
  · rw [Chain.upTo?_call (calls.isCall conforms), arguments, keywords, Chain.callee?,
      Option.bind_some, Callee.called?, starred]
    rfl
  · intro id within among
    rcases (@mem_tags_fill _ [call] _ id).mp within with around | inside
    · have unlisted := unlisted_call soundCall calls keywords cleanArguments
      exact absurd among (unlisted id (List.append_nil call.tags ▸ around))
    · rw [tags_node, tagsIn_nil] at inside
      exact List.mem_singleton.mp inside
  · exact fun id within among => List.mem_cons.mp (covered id within among)
  · have nothing : Gathered listed state (Context.fill (above ++ outer)
        (call.fill (.node reference (.name name usage) [])))
        (.node reference (.name name usage) []) [] := by
      refine ⟨?_, ?_, List.nodup_nil⟩
      · exact fun expr member => absurd member List.not_mem_nil
      · exact fun expr member => absurd member List.not_mem_nil
    have gathered := nothing.arguments soundCall calls cleanArguments (self_mem_preorder _)
    rw [arguments, fill_append] at gathered
    exact gathered

/-- Whether a called name opens a chain is told by its call and what is above it. -/
theorem opensChain_call {reference : NodeId} {label : Label}
    (distinct : (Context.fill outer (Context.fill (call :: above)
      (.node reference label []))).tags.Nodup) :
    (Context.fill outer (Context.fill (call :: above) (.node reference label []))).opensChain
        reference =
      (call.isPlainCall && isSingle (call.others .args) && Context.endsChain (above ++ outer)) := by
  rw [← fill_append] at distinct ⊢
  exact opensChain_fill distinct

/-- The listed names in the arguments of the call of a name are others. -/
theorem covered_arguments {reference : NodeId} {label : Label}
    (distinct : (Context.fill (call :: above) (.node reference label [])).tags.Nodup)
    (covered : ∀ id ∈ (Context.fill (call :: above) (.node reference label [])).tags,
      id ∈ listed → id ∈ reference :: later) :
    ∀ argument ∈ call.others .args, ∀ id ∈ argument.tags, id ∈ listed → id ∈ later := by
  intro argument among id deeper known
  have around : id ∈ Context.tags (call :: above) := by
    refine List.mem_append_left _ ?_
    exact (call.tags_others_sublist .args).subset (List.mem_flatMap.mpr ⟨argument, among, deeper⟩)
  have listedHere := covered id (mem_tags_fill.mpr (Or.inl around)) known
  refine (List.mem_cons.mp listedHere).resolve_left ?_
  rintro rfl
  exact (nodup_tags_fill.mp distinct).2.2 around (tag_mem_tags _)

/-- There are enough steps for every node on the way up. -/
theorem length_lt_size (sound : Sound listed state (Context.fill outer
    (Context.fill above inside))) : above.length < state.live.size := by
  rw [← fill_append] at sound
  have bound := length_add_size_le (above ++ outer) inside
  have small := sound.reads.size_le sound.distinct
  have positive : 0 < inside.size := by
    rw [← length_tags]
    exact List.length_pos_of_mem (tag_mem_tags _)
  rw [List.length_append] at bound
  omega

/-- **Climbing from the call of a reference**, once there is nothing left to expand in its condition,
makes its chain ready. -/
theorem meets_walkChain {name : String} {usage : Usage} {reference : NodeId} (entry : String)
    (resolves : Resolves listed depth resolve) (walled : Walled outer)
    (short : later.length ≤ depth) (subset : later ⊆ listed)
    (sound : Sound listed state (Context.fill outer (Context.fill above
      (call.fill (.node reference (.name name usage) [])))))
    (calls : Calls call) (keywords : call.others .keywords = [])
    (arguments : call.others .args = [condition]) (starred : condition.isStarred = false)
    (clean : Unlisted listed condition) (known : reference ∈ listed)
    (covered : ∀ id ∈ (Context.fill above (call.fill (.node reference (.name name usage) []))).tags,
      id ∈ listed → id ∈ reference :: later) :
    Meets (Expansion.walkChain resolve entry call.tag condition.tag later) state
      (ReadyFor listed outer reference state
        (Context.fill above (call.fill (.node reference (.name name usage) []))))
      (Blames listed state (Context.fill outer (Context.fill above
        (call.fill (.node reference (.name name usage) []))))) := by
  have whole := mem_preorder_fill_fill above outer
    (call.fill (.node reference (.name name usage) []))
  have opens := @opensChain_call outer above call reference (.name name usage) sound.distinct
  rw [calls.isPlainCall_iff.mpr keywords, arguments, isSingle, starred] at opens
  have climbing := climbing_head sound calls keywords arguments starred clean known covered
  have climb := climbs_of_lt resolves entry walled short subset (length_lt_size sound)
    state _ condition {} _ climbing
  have walk : Meets (Expansion.walkChain resolve entry call.tag condition.tag later) state _ _ :=
    meets_bind_ok outcome_live climb
  refine walk.imp ?_ ?_
  · rintro result state' ⟨ends, inner', ended, expr, steps, rfl, climbed⟩
    have among : condition ∈ (call.fill (.node reference (.name name usage) [])).preorder := by
      have only : condition ∈ (call.fill (.node reference (.name name usage) [])).having .args := by
        rw [calls.having_args, arguments]
        exact List.mem_singleton_self condition
      exact child_mem_preorder (mem_having.mp only)
    exact ⟨inner', ended, expr, _, rfl,
      climbed.ready known clean among whole (opens.trans ends)⟩
  · rintro fault after ⟨shape, malformed | blamed, leaves⟩
    · refine ⟨shape, ⟨reference, known, ?_, opens.trans malformed⟩, leaves⟩
      exact mem_tags_of_mem whole (mem_tags_of_mem (mem_preorder_fill [call] _) (tag_mem_tags _))
    · exact ⟨shape, blamed, leaves⟩

/-- **Coming to the end of the chain of a reference**, with a resolver for the chains inside its
arguments. -/
theorem meets_reach (entry : String) (resolves : Resolves listed depth resolve)
    {reference : NodeId} (sound : Sound listed state (Context.fill outer inside))
    (walled : Walled outer) (short : later.length ≤ depth) (subset : later ⊆ listed)
    (known : reference ∈ listed) (within : reference ∈ inside.tags)
    (covered : ∀ id ∈ inside.tags, id ∈ listed → id ∈ reference :: later) :
    Meets (Expansion.reach resolve entry reference later) state
      (fun result => ReadyFor listed outer reference state inside result.2)
      (Blames listed state (Context.fill outer inside)) := by
  have among := mem_preorder_fill outer inside
  have inTree := mem_tags_of_mem among within
  obtain ⟨name, usage, inner, rfl⟩ := sound.exists_fill among known within
  have soundHead := sound
  rw [← fill_append] at soundHead
  have blame : (Context.fill outer (Context.fill inner
      (.node reference (.name name usage) []))).opensChain reference = false →
      ∀ after, Leaves listed state (Context.fill outer (Context.fill inner
        (.node reference (.name name usage) []))) after →
      ∀ fault location, Blames listed state (Context.fill outer (Context.fill inner
        (.node reference (.name name usage) []))) (.shape fault location) after :=
    fun malformed after leaves fault location =>
      ⟨⟨fault, location, rfl⟩, ⟨reference, known, inTree, malformed⟩, leaves⟩
  unfold Expansion.reach
  refine @meets_invocation listed state (.node reference (.name name usage) []) _ _ _
    (inner ++ outer) entry _ soundHead ?_ fun none => blame ?_ state sound.leaves
  · intro call around same calls
    obtain ⟨above, rfl, rfl⟩ := walled.exists_tail same calls
    have opens := @opensChain_call outer above call reference (.name name usage) sound.distinct
    have soundCall : Sound listed state (Context.fill (above ++ outer)
        (call.fill (.node reference (.name name usage) []))) := soundHead
    have inner := sound.distinct.sublist (tags_sublist among)
    refine Meets.bind ((meets_ensureCall resolves short subset calls soundCall
      (covered_arguments inner covered)).imp (fun _ _ met => met)
      fun fault after blames => by rwa [fill_append] at blames) ?_
    rintro - state' ⟨call', tag, calls', alike, rewrites, clean⟩
    rw [isPlainCall_congr alike, isSingle_congr (alike.others .args)] at opens
    have toOuter := rewrites.fill
    have leaves : Leaves listed state _ state' := ⟨_, toOuter.sound, toOuter.leads⟩
    have whole := mem_preorder_fill_fill above outer
      (call'.fill (.node reference (.name name usage) []))
    have reads := toOuter.sound.reads.of_mem whole
    have conforms := toOuter.sound.conforming _ whole
    refine (calls'.checks_noKeywords entry reads tag).bind (fun keywords => ?_)
      fun some => blame ?_ state' leaves
    · refine calls'.meets_singleArgument entry reads conforms tag
        (fun condition arguments starred => ?_) fun many => blame ?_ state' leaves
      · have cleanCondition : Unlisted listed condition :=
          clean condition (arguments ▸ List.mem_singleton_self condition)
        have finish := meets_walkChain entry resolves walled short subset toOuter.sound
          calls' keywords arguments starred cleanCondition known
          fun id inside among => covered id (toOuter.mem_before among inside) among
        have same : call'.tag = call.tag := tag
        rw [same] at finish
        refine Meets.bind (finish.imp (fun _ _ ready => ready)
          fun fault after blames => blames.before toOuter.leads) ?_
        exact fun result after ready => meets_pure (ready.after toOuter)
      · rw [opens, many, Bool.and_false, Bool.false_and]
    · rw [opens, Bool.eq_false_iff.mpr fun plain => some (calls'.isPlainCall_iff.mp plain)]
      rfl
  · have opens : (Context.fill (inner ++ outer) (.node reference (.name name usage) [])).opensChain
        reference = Context.opensChain (inner ++ outer) := opensChain_fill soundHead.distinct
    rw [← fill_append, opens]
    cases around : inner ++ outer with
    | nil => rfl
    | cons call above =>
      have other : call.isPlainCall = false := isPlainCall_eq_false fun both =>
        none call above around ⟨both.1, both.2⟩
      rw [Context.opensChain, other]
      rfl

/-- **Expanding the chain of a reference**, with a resolver for the chains inside its arguments. -/
theorem resolves_expandReference (entry : String) (resolves : Resolves listed depth resolve) :
    Resolves listed (depth + 1) (Expansion.expandReference resolve entry) := by
  intro reference later state outer inside sound walled short subset known within covered
  have inTree := mem_tags_of_mem (mem_preorder_fill outer inside) within
  have pending : state.processed.contains reference = false := by
    simpa using (sound.pending reference known).mp inTree
  rw [Expansion.expandReference_eq]
  refine meets_bind_ok (outcome_isProcessed reference) ?_
  rw [pending, if_neg Bool.false_ne_true]
  refine Meets.bind (meets_reach entry resolves sound walled (Nat.le_of_lt_succ short) subset known
    within covered) ?_
  rintro ⟨call, result⟩ state' ⟨inner', ended, expr, chain, rfl, ready⟩
  obtain ⟨live, outcome, rewrites, gone⟩ := ready.replaced
  exact meets_bind_ok outcome (meets_bind_ok rfl (meets_bind_ok outcome_live
    (meets_bind_ok rfl (meets_pure ⟨_, rewrites.of_eq rfl rfl, gone⟩))))

end Resolving

section Listing

/-- A resolver expands the chain of a reference if its bound exceeds the length of the list. -/
theorem resolves_resolver (entry : String) (depth : Nat) :
    Resolves listed depth (Expansion.resolver entry depth) := by
  induction depth with
  | zero => exact fun _ _ _ _ _ _ _ short => absurd short (Nat.not_lt_zero _)
  | succ depth ih => exact resolves_expandReference entry ih

/-- **Going through a list that holds all listed names** of the tree. -/
theorem meets_processAll (entry : String) {references : List NodeId}
    (sound : Sound listed state tree) (subset : references ⊆ listed)
    (covered : ∀ id ∈ tree.tags, id ∈ listed → id ∈ references) :
    Meets (Expansion.processAll entry references) state
      (fun _ state' => ∃ tree', Rewrites listed [] state tree state' tree' ∧
        Unlisted listed tree') (Blames listed state tree) := by
  induction references generalizing state tree with
  | nil =>
    refine meets_pure ⟨tree, .refl sound, fun id inside member => ?_⟩
    exact absurd (covered id inside member) List.not_mem_nil
  | cons reference later ih =>
    obtain ⟨known, subset'⟩ := List.cons_subset.mp subset
    have rest : ∀ state' tree', Rewrites listed [] state tree state' tree' →
        reference ∉ tree'.tags → Meets (Expansion.processAll entry later) state'
          (fun _ state'' => ∃ tree'', Rewrites listed [] state tree state'' tree'' ∧
            Unlisted listed tree'') (Blames listed state tree) := by
      intro state' tree' rewrites gone
      refine (ih rewrites.sound subset' (rewrites.covered gone covered)).imp ?_ ?_
      · rintro - state'' ⟨tree'', rewrites', unlisted⟩
        exact ⟨tree'', rewrites.trans rewrites', unlisted⟩
      · exact fun fault after blames => blames.before rewrites.leads
    unfold Expansion.processAll
    refine meets_bind_ok (outcome_isProcessed reference) ?_
    by_cases processed : reference ∈ state.processed
    · have expanded : state.processed.contains reference = true := by simpa using processed
      rw [expanded]
      exact rest state tree (.refl sound) fun inside =>
        (sound.pending reference known).mp inside processed
    · have pending : state.processed.contains reference = false := by simpa using processed
      rw [pending]
      have resolved := resolves_resolver entry (later.length + 1) reference later state [] tree
        sound (fun _ above => absurd above (Option.not_mem_none _)) (Nat.lt_succ_self _) subset' known
        ((sound.pending reference known).mpr processed) covered
      refine Meets.bind resolved fun _ state' met => ?_
      obtain ⟨tree', rewrites, gone⟩ := met
      exact rest state' tree' rewrites gone

/-- **Expanding the chains of a list of references** expands them all, or some of them opens no
chain. -/
theorem meets_dispatch (entry : String) (sound : Sound listed { state with processed := [] } tree) :
    Meets (Expansion.dispatch entry listed) state
      (fun count state' => ∃ tree', Sound listed state' tree' ∧ tree'.tag = tree.tag ∧
        Reduces listed tree tree' ∧ Unlisted listed tree' ∧ count = listed.dedup.length)
      (Blames listed { state with processed := [] } tree) := by
  unfold Expansion.dispatch
  refine meets_bind_ok rfl ?_
  refine Meets.bind (meets_processAll entry sound (List.Subset.refl _) fun _ _ member => member) ?_
  rintro - state' ⟨tree', rewrites, unlisted⟩
  refine meets_bind_ok rfl (meets_bind_ok rfl (meets_pure ⟨tree', ?_, ?_, rewrites.leads.reduces,
    unlisted, ?_⟩))
  · exact rewrites.sound.grown (.refl _) rfl
  · exact (rewrites.leads.reduces.root_eq sound.root).1
  · -- All listed names are noted as expanded, each once.
    have all : listed.dedup.Perm state'.processed := by
      refine (List.perm_ext_iff_of_nodup (List.nodup_dedup _) rewrites.sound.processed.1).mpr ?_
      intro id
      rw [List.mem_dedup]
      refine ⟨fun member => ?_, fun member => rewrites.sound.processed.2 member⟩
      by_contra absent
      exact unlisted id ((rewrites.sound.pending id member).mpr absent) member
    exact all.length_eq.symm

end Listing

end NumberedTree

end IfChains
