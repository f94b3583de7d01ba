/-
**Calls on the way along a chain.**

The walk along a chain comes from call to call, gathering branches, until the chain ends, and makes
the conditional expression of the steps that it has met.

* `Climbing`: what holds when the walk has come to a call; `Climbed`: when it has come to the end;
* `meets_end`: at the call that ends the chain it has come to the end;
* `Ensured`: what holds when it has expanded the arguments of a call that does not end the chain;
* `Ensured.climbing_next`, `Climbed.back`: from that call on, and back from the end.
-/

import IfChains.Proofs.Chain.Gathering

namespace IfChains

open IfChains.Tree IfChains.Walk

namespace NumberedTree

variable {listed : List NodeId} {state state' : WalkState} {inner outer above : Context NodeId}
  {position condition : NumberedTree} {branches : BranchSet NumberedTree}
  {chain : Chain NodeId NumberedTree} {remaining : List NodeId}

/-- A walk has come to a call up to which there is a chain, whose arguments hold no listed names;
the call is in a context within a walled one, and all listed names there are still to come. -/
structure Climbing (listed : List NodeId) (state : WalkState) (inner outer : Context NodeId)
    (position condition : NumberedTree) (branches : BranchSet NumberedTree)
    (chain : Chain NodeId NumberedTree) (remaining : List NodeId) : Prop where
  sound : Sound listed state (Context.fill outer (Context.fill inner position))
  reading : Chain.upTo? position = some chain
  head : chain.head ∈ listed
  only : ∀ id ∈ position.tags, id ∈ listed → id = chain.head
  clean : ∀ expr ∈ chain.exprs, Unlisted listed expr
  covered : ∀ id ∈ (Context.fill inner position).tags, id ∈ listed →
    id = chain.head ∨ id ∈ remaining
  gathered : Gathered listed state (Context.fill outer (Context.fill inner position)) position
    (condition :: branches.exprs)

/-- A walk has come from a call to the end of its chain and made the conditional expression of the
steps in between. -/
structure Climbed (listed : List NodeId) (state : WalkState) (inner outer : Context NodeId)
    (position condition : NumberedTree) (branches : BranchSet NumberedTree)
    (chain : Chain NodeId NumberedTree) (state' : WalkState) (inner' : Context NodeId)
    (ended expr : NumberedTree) (later : List (Step NumberedTree)) : Prop where
  rewrites : Rewrites listed outer state (Context.fill inner position) state'
    (Context.fill inner' ended)
  beneath : position ∈ ended.preorder
  reading : Chain.ofTree? ended = some { chain with steps := chain.steps ++ later }
  only : ∀ id ∈ ended.tags, id ∈ listed → id = chain.head
  clean : ∀ inside ∈ later.flatMap Step.exprs, Unlisted listed inside
  loose : Loose listed state'.live expr
  distinct : expr.tags.Nodup
  image : marked listed expr = MarkedTree.build (marked listed condition)
    (branches.map (marked listed)) (later.map (Step.map (marked listed)))
  apart : ∀ id ∈ expr.tags,
    id ∈ ended.tags ∨ id ∉ (Context.fill outer (Context.fill inner' ended)).tags
  origin : ∀ id ∈ expr.tags, id ∈ (condition :: branches.exprs).flatMap Tree.tags ∨
    (id ∉ position.tags ∧ (id ∈ (Context.fill outer (Context.fill inner position)).tags ∨
      state.live.size ≤ id))

/-- What a walk returns that climbs to the end of a chain. -/
def ReachesEnd (listed : List NodeId) (state : WalkState) (inner outer : Context NodeId)
    (position condition : NumberedTree) (branches : BranchSet NumberedTree)
    (chain : Chain NodeId NumberedTree) (result : Expansion.ChainResult) (state' : WalkState) :
    Prop :=
  Context.endsChain (inner ++ outer) = true ∧ ∃ inner' ended expr later,
    result = ⟨ended.tag, expr.tag⟩ ∧ Climbed listed state inner outer position condition branches
      chain state' inner' ended expr later

/-- How such a walk stops: the chain does not end, or another listed name opens no chain, and the
tree that is left behind is one to which the walk has led. -/
structure Fails (listed : List NodeId) (context : Context NodeId) (state : WalkState)
    (tree : NumberedTree) (fault : WalkFault) (after : WalkState) : Prop where
  shape : ∃ shape location, fault = .shape shape location
  malformed : context.endsChain = false ∨ ∃ id ∈ listed, id ∈ tree.tags ∧ tree.opensChain id = false
  leaves : Leaves listed state tree after

/-- The listed names in the arguments of the next call are still to come. -/
theorem Climbing.covered_arguments {member call : Frame NodeId}
    (climbing : Climbing listed state (member :: call :: above) outer position condition branches
      chain remaining) :
    ∀ argument ∈ call.others .args, ∀ id ∈ argument.tags, id ∈ listed → id ∈ remaining := by
  intro argument among id inside known
  have around : id ∈ Context.tags (member :: call :: above) := by
    refine List.mem_append_right _ (List.mem_append_left _ ?_)
    exact (call.tags_others_sublist .args).subset (List.mem_flatMap.mpr ⟨argument, among, inside⟩)
  refine (climbing.covered id (mem_tags_fill.mpr (Or.inl around)) known).resolve_left ?_
  rintro rfl
  have distinct := climbing.sound.distinct.sublist
    (tags_sublist (mem_preorder_fill outer (Context.fill (member :: call :: above) position)))
  exact (nodup_tags_fill.mp distinct).2.2 around (Chain.upTo?_within climbing.reading).head

/-- A filling of an inner context is a filling of the whole one. -/
theorem Rewrites.fill {inside inside' : NumberedTree}
    (rewrites : Rewrites listed (inner ++ outer) state inside state' inside') :
    Rewrites listed outer state (Context.fill inner inside) state'
      (Context.fill inner inside') := by
  obtain ⟨sound, leads, starred⟩ := rewrites
  rw [fill_append] at sound leads
  rw [fill_append] at leads
  exact ⟨sound, leads, isStarred_fill_congr inner starred⟩

/-- A call is beneath the next one. -/
theorem mem_preorder_next (member call : Frame NodeId) (position : NumberedTree) :
    position ∈ (call.fill (member.fill position)).preorder :=
  mem_preorder_fill [member, call] position

/-- What fills two contexts is in the tree. -/
theorem mem_preorder_fill_fill (inner outer : Context NodeId) (inside : NumberedTree) :
    inside ∈ (Context.fill outer (Context.fill inner inside)).preorder :=
  mem_preorder_trans (mem_preorder_fill inner inside) (mem_preorder_fill outer _)

section Ending

variable {member call : Frame NodeId} {name : String} {usage : Usage}
  {continuation : Continuation}

/-- **At the call that ends a chain** the conditional expression is made. -/
theorem meets_end (climbing : Climbing listed state (member :: call :: above) outer position
      condition branches chain remaining)
    (label : member.label = .member name usage)
    (named : Continuation.ofKeyword? name = some continuation) (calls : Calls call)
    (terminal : continuation.isTerminal = true) :
    Meets (do
      Shape.noArguments call.tag ("member " ++ continuation.keyword)
      Shape.noKeywords call.tag ("member " ++ continuation.keyword)
      return ⟨call.tag, ← Synthesis.conditional (branches.map Tree.tag) condition.tag⟩) state
      (ReachesEnd listed state (member :: call :: above) outer position condition branches chain)
      (Fails listed (member :: call :: above ++ outer) state
        (Context.fill outer (Context.fill (member :: call :: above) position))) := by
  obtain ⟨sound, reading, head, only, clean, covered, gathered⟩ := climbing
  have ended : call.fill (member.fill position) ∈
      (Context.fill outer (Context.fill (member :: call :: above) position)).preorder :=
    mem_preorder_fill_fill above outer _
  have reads : state.live.Reads (call.fill (member.fill position)) := sound.reads.of_mem ended
  have ends : Context.endsChain (member :: call :: above ++ outer) = (call.isPlainCall &&
      continuation.admits (call.others .args) &&
        (continuation.isTerminal || Context.endsChain (above ++ outer))) :=
    endsChain_next label named
  have noArguments := @checks_noArguments state (call.fill (member.fill position))
    ("member " ++ continuation.keyword) reads calls.label
  rw [calls.having_args] at noArguments
  refine noArguments.bind (fun arguments => (calls.checks_noKeywords _ reads rfl).bind
    (fun keywords => ?_) fun some fault location =>
      ⟨⟨fault, location, rfl⟩, Or.inl ?_, sound.leaves⟩)
    fun some fault location => ⟨⟨fault, location, rfl⟩, Or.inl ?_, sound.leaves⟩
  · have known : ∀ id ∈ listed, id < state.live.size := fun id member => sound.lt_size member
    obtain ⟨expr, state', made, grown, same, ⟨reads, distinct, origin, -⟩, image⟩ :=
      builds_conditional known (fun expr member => (gathered.loose expr member).reads)
        gathered.distinct
    have loose := loose_of_image reads image fun expr member => (gathered.loose expr member).plain
    refine meets_bind_ok made (meets_pure ⟨?_, above, call.fill (member.fill position), expr, [],
      rfl, ?_⟩)
    · rw [ends, calls.isPlainCall_iff.mpr keywords, Continuation.admits, if_pos terminal, arguments,
        terminal]
      rfl
    have sound' : Sound listed state (Context.fill (above ++ outer)
        (call.fill (member.fill position))) := by
      rw [fill_append]
      exact sound
    have around := unlisted_call sound' calls keywords (by
      rw [arguments]
      exact fun argument inside => absurd inside List.not_mem_nil)
    have inside := mem_preorder_next member call position
    refine ⟨⟨sound.grown grown same, leads_grown _ grown, rfl⟩, inside, ?_, ?_, ?_, loose, distinct,
      image, ?_, ?_⟩
    · rw [List.append_nil]
      exact ofTree?_next calls (sound.conforming.of_mem ended) label named terminal arguments
        keywords reading
    · exact only_next sound' label around only
    · exact fun inside among => absurd among List.not_mem_nil
    · intro id member
      rcases origin id member with old | fresh
      · exact (gathered.mem_or_not_mem old).imp (mem_tags_of_mem inside) And.left
      · exact Or.inr fun within =>
          Nat.lt_irrefl id (Nat.lt_of_lt_of_le (sound.reads.lt_size within) fresh)
    · intro id member
      refine (origin id member).imp_right fun fresh => ⟨fun within => ?_, Or.inr fresh⟩
      have known := sound.reads.lt_size (mem_tags_of_mem ended (mem_tags_of_mem inside within))
      exact Nat.lt_irrefl id (Nat.lt_of_lt_of_le known fresh)
  · rw [ends, Bool.eq_false_iff.mpr fun plain => some (calls.isPlainCall_iff.mp plain)]
    rfl
  · have refused : continuation.admits (call.others .args) = false := by
      rw [Continuation.admits, if_pos terminal, List.isEmpty_eq_false_iff]
      exact some
    rw [ends, refused, Bool.and_false, Bool.false_and]

end Ending

section GoingOn

variable {member call call' : Frame NodeId} {name : String} {usage : Usage}
  {continuation : Continuation}

/-- A walk has come to a call that does not end its chain, and has expanded what is inside the
arguments of that call, which has no keywords. -/
structure Ensured (listed : List NodeId) (state : WalkState) (member call : Frame NodeId)
    (above outer : Context NodeId) (position condition : NumberedTree)
    (branches : BranchSet NumberedTree) (chain : Chain NodeId NumberedTree)
    (remaining : List NodeId) (continuation : Continuation) (state' : WalkState)
    (call' : Frame NodeId) : Prop where
  climbing : Climbing listed state (member :: call :: above) outer position condition branches chain
    remaining
  named : ∃ name usage, member.label = .member name usage ∧
    Continuation.ofKeyword? name = some continuation
  goesOn : continuation.isTerminal = false
  tag : call'.tag = call.tag
  calls : Calls call'
  alike : Frame.Alike call call'
  rewrites : Rewrites listed (above ++ outer) state (call.fill (member.fill position)) state'
    (call'.fill (member.fill position))
  clean : ∀ argument ∈ call'.others .args, Unlisted listed argument
  keywords : call'.others .keywords = []

namespace Ensured

variable (ensured : Ensured listed state member call above outer position condition branches chain
  remaining continuation state' call')

include ensured

/-- The chain ends above if the arguments are as the continuation wants them and it ends further
above. -/
theorem endsChain_eq : Context.endsChain (member :: call :: above ++ outer) =
    (continuation.admits (call'.others .args) && Context.endsChain (above ++ outer)) := by
  obtain ⟨name, usage, label, named⟩ := ensured.named
  have plain := ensured.calls.isPlainCall_iff.mpr ensured.keywords
  have ends : Context.endsChain (member :: call :: (above ++ outer)) = _ :=
    endsChain_next label named
  rw [List.cons_append, List.cons_append, ends, isPlainCall_congr ensured.alike, plain,
    admits_congr continuation (ensured.alike.others .args), ensured.goesOn, Bool.true_and,
    Bool.false_or]

/-- The walk leads from filling to filling of the outer context. -/
theorem rewrites_outer : Rewrites listed outer state
    (Context.fill (member :: call :: above) position) state'
    (Context.fill above (call'.fill (member.fill position))) :=
  ensured.rewrites.fill

/-- The arguments are gathered. -/
theorem gathered : Gathered listed state'
    (Context.fill outer (Context.fill above (call'.fill (member.fill position))))
    (call'.fill (member.fill position)) (condition :: branches.exprs ++ call'.others .args) := by
  have sound := ensured.rewrites.sound
  have leads := ensured.rewrites_outer.leads
  rw [fill_append] at sound
  have kept := ensured.climbing.gathered.leads leads ensured.rewrites_outer.sound
    (self_mem_preorder position)
    (mem_preorder_trans (mem_preorder_next member call' position) (mem_preorder_fill_fill ..))
  rw [← fill_append] at kept sound ⊢
  exact kept.arguments sound ensured.calls ensured.clean (mem_preorder_fill [member] position)

/-- The numbers in the arguments are not beneath the position. -/
theorem new_of_argument {id : NodeId}
    (inside : id ∈ (call'.others .args).flatMap Tree.tags) : id ∉ position.tags ∧
      (id ∈ (Context.fill outer (Context.fill (member :: call :: above) position)).tags ∨
        state.live.size ≤ id) := by
  have distinct := ensured.rewrites_outer.sound.distinct.sublist
    (tags_sublist (mem_preorder_fill_fill above outer (call'.fill (member.fill position))))
  have around : id ∈ Context.tags [call'] :=
    List.mem_append_left _ ((call'.tags_others_sublist .args).subset inside)
  constructor
  · intro within
    exact (@nodup_tags_fill _ [call'] (member.fill position)).mp distinct |>.2.2 around
      (mem_tags_of_mem (mem_preorder_fill [member] position) within)
  · refine ensured.rewrites_outer.leads.tags id
      (mem_tags_of_mem (mem_preorder_fill_fill above outer _) ?_)
    exact (@mem_tags_fill _ [call'] (member.fill position) id).mpr (Or.inl around)

/-- **The walk climbs on** with a further step, once something has been gathered for it. -/
theorem climbing_next {state'' : WalkState} {condition' : NumberedTree}
    {branches' : BranchSet NumberedTree} {step : Step NumberedTree}
    (adds : Step.of? continuation (call'.others .args) = some step)
    (grown : LiveTree.Grown state'.live state''.live) (same : state''.processed = state'.processed)
    (gathered : Gathered listed state''
      (Context.fill outer (Context.fill above (call'.fill (member.fill position))))
      (call'.fill (member.fill position)) (condition' :: branches'.exprs)) :
    Climbing listed state'' above outer (call'.fill (member.fill position)) condition' branches'
      (chain.goOn step) remaining := by
  obtain ⟨name, usage, label, named⟩ := ensured.named
  obtain ⟨-, reading, head, only, clean, covered, -⟩ := ensured.climbing
  have sound := ensured.rewrites_outer.sound
  have conforming := sound.conforming.of_mem
    (mem_preorder_fill_fill above outer (call'.fill (member.fill position)))
  have soundAround := ensured.rewrites.sound
  have unlisted := unlisted_call soundAround ensured.calls ensured.keywords ensured.clean
  refine ⟨sound.grown grown same, ?_, head, only_next soundAround label unlisted only, ?_, ?_,
    gathered⟩
  · rw [upTo?_next ensured.calls conforming label named ensured.keywords reading, adds]
    rfl
  · intro expr member
    rw [Chain.exprs_goOn, Step.exprs_of_of? adds] at member
    exact (List.mem_append.mp member).elim (clean expr) (ensured.clean expr)
  · exact fun id inside among => covered id (ensured.rewrites_outer.mem_before among inside) among

/-- A walk that fails further above, once something has been made, fails. -/
theorem fails {state'' after : WalkState} {fault : WalkFault}
    (grown : LiveTree.Grown state'.live state''.live)
    (failed : Fails listed (above ++ outer) state''
      (Context.fill outer (Context.fill above (call'.fill (member.fill position)))) fault after) :
    Fails listed (member :: call :: above ++ outer) state
      (Context.fill outer (Context.fill (member :: call :: above) position)) fault after := by
  have leads := ensured.rewrites_outer.leads.trans (leads_grown _ grown)
  obtain ⟨shape, malformed | blamed, leaves⟩ := failed
  · refine ⟨shape, Or.inl ?_, leaves.before leads⟩
    rw [ensured.endsChain_eq, malformed, Bool.and_false]
  · have blames : Blames listed state'' _ fault after := ⟨shape, blamed, leaves⟩
    have before := blames.before leads
    exact ⟨shape, Or.inr before.malformed, before.leaves⟩

end Ensured

/-- **Having climbed from the next call** is having climbed from the call before it, if what was
gathered for the step leads to the same conditional expression. -/
theorem Climbed.back {state'' final : WalkState} {position' condition' ended expr : NumberedTree}
    {branches' : BranchSet NumberedTree} {step : Step NumberedTree}
    {inner' nextInner : Context NodeId} {later : List (Step NumberedTree)}
    (climbed : Climbed listed state'' nextInner outer position' condition' branches'
      (chain.goOn step) final inner' ended expr later)
    (rewrites : Rewrites listed outer state (Context.fill inner position) state''
      (Context.fill nextInner position'))
    (beneath : position ∈ position'.preorder)
    (clean : ∀ inside ∈ step.exprs, Unlisted listed inside)
    (image : ∀ later,
      MarkedTree.build (marked listed condition') (branches'.map (marked listed)) later =
        MarkedTree.build (marked listed condition) (branches.map (marked listed))
          (step.map (marked listed) :: later))
    (origin : ∀ id ∈ (condition' :: branches'.exprs).flatMap Tree.tags,
      id ∈ (condition :: branches.exprs).flatMap Tree.tags ∨ (id ∉ position.tags ∧
        (id ∈ (Context.fill outer (Context.fill inner position)).tags ∨ state.live.size ≤ id))) :
    Climbed listed state inner outer position condition branches chain final inner' ended expr
      (step :: later) := by
  refine ⟨rewrites.trans climbed.rewrites, mem_preorder_trans beneath climbed.beneath, ?_,
    climbed.only, ?_, climbed.loose, climbed.distinct, ?_, climbed.apart, ?_⟩
  · rw [climbed.reading]
    simp [Chain.goOn]
  · rw [List.flatMap_cons]
    exact fun inside among => (List.mem_append.mp among).elim (clean inside) (climbed.clean inside)
  · rw [climbed.image, image]
    rfl
  · intro id member
    rcases climbed.origin id member with given | ⟨outside, old | fresh⟩
    · exact origin id given
    · exact Or.inr ⟨fun within => outside (mem_tags_of_mem beneath within),
        rewrites.leads.tags id old⟩
    · exact Or.inr ⟨fun within => outside (mem_tags_of_mem beneath within),
        Or.inr (Nat.le_trans rewrites.leads.grows fresh)⟩

end GoingOn

end NumberedTree

end IfChains
