/-
**Climbing a chain to its end.**

The walk along a chain fails only at a malformed chain: either the one that it climbs, or one inside
an argument. Otherwise it comes to the end, however many steps there are.

* `Climbs`: what the walk comes to from any call in a context;
* `Ensured.meets_value`, `Ensured.meets_discarded`, `Ensured.meets_elseIf`: one step of each kind,
  if the walk climbs on from the next call;
* `climbs_of_lt`: the walk climbs if it may take more steps than the context has frames.
-/

import IfChains.Proofs.Chain.Climb

namespace IfChains

open IfChains.Tree IfChains.Walk

namespace NumberedTree

variable {listed : List NodeId} {state state' : WalkState} {inner outer above : Context NodeId}
  {position condition : NumberedTree} {branches : BranchSet NumberedTree}
  {chain : Chain NodeId NumberedTree} {remaining : List NodeId}

/-- What the walk along a chain comes to from any call in a context, given a number of steps. -/
def Climbs (listed : List NodeId) (resolve : Expansion.Resolver) (entry : String) (steps : Nat)
    (remaining : List NodeId) (inner outer : Context NodeId) : Prop :=
  ∀ (state : WalkState) (position condition : NumberedTree) (branches : BranchSet NumberedTree)
    (chain : Chain NodeId NumberedTree),
    Climbing listed state inner outer position condition branches chain remaining →
    Meets (Expansion.processChain resolve entry steps position.tag condition.tag
        (branches.map Tree.tag) remaining) state
      (ReachesEnd listed state inner outer position condition branches chain)
      (Fails listed (inner ++ outer) state (Context.fill outer (Context.fill inner position)))

/-- The numbers in a conditional whose alternate branch is replaced. -/
theorem mem_tags_replaceAlternate {expr : NumberedTree} {id : NodeId} :
    id ∈ (condition :: (branches.replaceAlternate expr).exprs).flatMap Tree.tags ↔
      id ∈ (condition :: branches.consequent).flatMap Tree.tags ∨ id ∈ expr.tags := by
  simp [BranchSet.replaceAlternate, BranchSet.exprs, or_assoc]

section GoingOn

variable {member call call' : Frame NodeId} {continuation : Continuation}

namespace Ensured

variable {state'' final : WalkState} {condition' : NumberedTree}
  {branches' : BranchSet NumberedTree} {step : Step NumberedTree} {resolve : Expansion.Resolver}
  {entry : String} {steps : Nat}

variable (ensured : Ensured listed state member call above outer position condition branches chain
  remaining continuation state' call')

include ensured

/-- A continuation that adds a step has the arguments that it wants. -/
theorem admits_of_adds (adds : Step.of? continuation (call'.others .args) = some step) :
    continuation.admits (call'.others .args) = true := by
  rw [← Step.isSome_of? ensured.goesOn, adds]
  rfl

/-- The walk leads to the state from which it climbs on. -/
theorem rewrites_grown (grown : LiveTree.Grown state'.live state''.live)
    (same : state''.processed = state'.processed) : Rewrites listed outer state
    (Context.fill (member :: call :: above) position) state''
    (Context.fill above (call'.fill (member.fill position))) :=
  ensured.rewrites_outer.trans
    ⟨ensured.rewrites_outer.sound.grown grown same, leads_grown _ grown, rfl⟩

/-- **Climbing on** after something has been gathered for a step. -/
theorem meets_climb (climbs : Climbs listed resolve entry steps remaining above outer)
    (adds : Step.of? continuation (call'.others .args) = some step)
    (grown : LiveTree.Grown state'.live state''.live) (same : state''.processed = state'.processed)
    (gathered : Gathered listed state''
      (Context.fill outer (Context.fill above (call'.fill (member.fill position))))
      (call'.fill (member.fill position)) (condition :: branches'.exprs))
    (image : ∀ later,
      MarkedTree.build (marked listed condition) (branches'.map (marked listed)) later =
        MarkedTree.build (marked listed condition) (branches.map (marked listed))
          (step.map (marked listed) :: later))
    (origin : ∀ id ∈ (condition :: branches'.exprs).flatMap Tree.tags,
      id ∈ (condition :: branches.exprs).flatMap Tree.tags ∨ (id ∉ position.tags ∧
        (id ∈ (Context.fill outer (Context.fill (member :: call :: above) position)).tags ∨
          state.live.size ≤ id))) :
    Meets (Expansion.processChain resolve entry steps call.tag condition.tag
        (branches'.map Tree.tag) remaining) state''
      (ReachesEnd listed state (member :: call :: above) outer position condition branches chain)
      (Fails listed (member :: call :: above ++ outer) state
        (Context.fill outer (Context.fill (member :: call :: above) position))) := by
  have climb := climbs state'' _ condition branches' _
    (ensured.climbing_next adds grown same gathered)
  have tag : (call'.fill (member.fill position)).tag = call.tag := ensured.tag
  rw [tag] at climb
  refine climb.imp ?_ fun fault after => ensured.fails grown
  rintro result final ⟨ends, inner', ended, expr, later, rfl, climbed⟩
  refine ⟨?_, inner', ended, expr, step :: later, rfl, ?_⟩
  · rw [ensured.endsChain_eq, ensured.admits_of_adds adds, ends]
    rfl
  · refine climbed.back (ensured.rewrites_grown grown same) (mem_preorder_next ..) ?_ image origin
    rw [Step.exprs_of_of? adds]
    exact ensured.clean

/-- An argument that is not the one that is wanted ends the climb. -/
theorem fails_of_refused (refused : continuation.admits (call'.others .args) = false)
    (shape : ShapeFault) (location : Location) :
    Fails listed (member :: call :: above ++ outer) state
      (Context.fill outer (Context.fill (member :: call :: above) position))
      (.shape shape location) state' := by
  refine ⟨⟨shape, location, rfl⟩, Or.inl ?_,
    ⟨_, ensured.rewrites_outer.sound, ensured.rewrites_outer.leads⟩⟩
  rw [ensured.endsChain_eq, refused, Bool.false_and]

/-- The next call stands in the table. -/
theorem reads_next : state'.live.Reads (call'.fill (member.fill position)) :=
  ensured.rewrites_outer.sound.reads.of_mem (mem_preorder_fill_fill above outer _)

/-- A walk that wants a single argument, and what follows. -/
theorem meets_single {β : Type} {returns : β → WalkState → Prop} {next : NodeId → Walk β}
    (label : String) (single : continuation.takesSingle = true)
    (passed : ∀ argument, call'.others .args = [argument] → argument.isStarred = false →
      Meets (next argument.tag) state' returns (Fails listed (member :: call :: above ++ outer) state
        (Context.fill outer (Context.fill (member :: call :: above) position)))) :
    Meets (do
      let argument ← Shape.singleArgument call.tag label
      Shape.expressionLike argument call.tag label
      next argument) state' returns (Fails listed (member :: call :: above ++ outer) state
        (Context.fill outer (Context.fill (member :: call :: above) position))) := by
  have conforms := ensured.rewrites_outer.sound.conforming _
    (mem_preorder_fill_fill above outer (call'.fill (member.fill position)))
  refine ensured.calls.meets_singleArgument label ensured.reads_next conforms ensured.tag passed
    fun many => ensured.fails_of_refused ?_
  rw [Continuation.admits, ensured.goesOn, if_neg Bool.false_ne_true, if_pos single]
  exact many

/-- The numbers of what has been gathered for a step are those of what was gathered before, of
arguments, and of what was made. -/
theorem origin_of_subperm {exprs extra : List NumberedTree}
    (subperm : exprs.Subperm (condition :: branches.exprs ++ call'.others .args ++ extra))
    (fresh : ∀ id ∈ extra.flatMap Tree.tags, state'.live.size ≤ id) :
    ∀ id ∈ exprs.flatMap Tree.tags, id ∈ (condition :: branches.exprs).flatMap Tree.tags ∨
      (id ∉ position.tags ∧
        (id ∈ (Context.fill outer (Context.fill (member :: call :: above) position)).tags ∨
          state.live.size ≤ id)) := by
  intro id here
  obtain ⟨expr, among, inside⟩ := List.mem_flatMap.mp here
  rcases List.mem_append.mp (subperm.subset among) with known | made
  · rcases List.mem_append.mp known with old | argument
    · exact Or.inl (List.mem_flatMap.mpr ⟨expr, old, inside⟩)
    · exact Or.inr (ensured.new_of_argument (List.mem_flatMap.mpr ⟨expr, argument, inside⟩))
  · have higher := Nat.le_trans ensured.rewrites_outer.leads.grows
      (fresh id (List.mem_flatMap.mpr ⟨expr, made, inside⟩))
    refine Or.inr ⟨fun within => ?_, Or.inr higher⟩
    have known := ensured.climbing.sound.reads.lt_size
      (mem_tags_of_mem (mem_preorder_fill_fill (member :: call :: above) outer position) within)
    exact Nat.lt_irrefl id (Nat.lt_of_lt_of_le known higher)

/-- **A continuation that adds a value to a branch.** -/
theorem meets_value (climbs : Climbs listed resolve entry steps remaining above outer)
    (label : String) {branch : Branch} (single : continuation.takesSingle = true)
    (adds : ∀ argument : NumberedTree, argument.isStarred = false →
      Step.of? continuation [argument] = some (.value branch argument)) :
    Meets (do
      let argument ← Shape.singleArgument call.tag label
      Shape.expressionLike argument call.tag label
      Expansion.processChain resolve entry steps call.tag condition.tag
        ((branches.map Tree.tag).push branch argument) remaining) state'
      (ReachesEnd listed state (member :: call :: above) outer position condition branches chain)
      (Fails listed (member :: call :: above ++ outer) state
        (Context.fill outer (Context.fill (member :: call :: above) position))) := by
  refine ensured.meets_single label single fun argument arguments starred => ?_
  have subperm : (condition :: (branches.push branch argument).exprs).Subperm
      (condition :: branches.exprs ++ call'.others .args) := by
    rw [arguments, List.cons_append]
    exact ((branches.exprs_push branch argument).cons condition).subperm
  rw [← BranchSet.map_push]
  refine ensured.meets_climb climbs (by rw [arguments]; exact adds argument starred) (.refl _) rfl
    (ensured.gathered.subperm subperm) (fun later => ?_)
    (ensured.origin_of_subperm (List.append_nil (_ ++ _) ▸ subperm) fun id inside =>
      absurd inside List.not_mem_nil)
  rw [BranchSet.map_push]
  rfl

/-- **A continuation that puts expressions before the value of a branch.** -/
theorem meets_discarded (climbs : Climbs listed resolve entry steps remaining above outer)
    {branch : Branch} (adds : ∀ arguments : List NumberedTree,
      Step.of? continuation arguments = some (.discarded branch arguments)) :
    Meets (do
      let branches := (branches.map Tree.tag).pushDiscarded branch (← argumentsOf call.tag)
        (← Walk.undefined)
      Expansion.processChain resolve entry steps call.tag condition.tag branches remaining) state'
      (ReachesEnd listed state (member :: call :: above) outer position condition branches chain)
      (Fails listed (member :: call :: above ++ outer) state
        (Context.fill outer (Context.fill (member :: call :: above) position))) := by
  have sound := ensured.rewrites_outer.sound
  have arguments := @outcome_argumentsOf state' (call'.fill (member.fill position))
    ensured.reads_next ensured.calls.label
  have tag : (call'.fill (member.fill position)).tag = call.tag := ensured.tag
  rw [tag, ensured.calls.having_args] at arguments
  have undefined : Builds listed state'.live.size [] state' MarkedTree.undefined Walk.undefined :=
    builds_constant (fun id member => sound.lt_size member) (Nat.le_refl _) .none
  obtain ⟨none, state'', makes, grown, same, made, image⟩ := undefined
  have loose : Loose listed state''.live none :=
    loose_of_plain made.reads (image ▸ MarkedTree.plain_constant .none)
  have subperm :
      (condition :: (branches.pushDiscarded branch (call'.others .args) none).exprs).Subperm
        (condition :: branches.exprs ++ call'.others .args ++ [none]) := by
    rw [List.append_assoc, List.cons_append]
    exact (List.subperm_cons condition).mpr (branches.exprs_pushDiscarded branch _ none)
  refine meets_bind_ok arguments (meets_bind_ok makes ?_)
  have gathered := ensured.gathered.fresh sound grown made loose
  have climb := ensured.meets_climb climbs (adds _) grown same (gathered.subperm subperm)
    (fun later => by rw [BranchSet.map_pushDiscarded, image]; rfl)
    (ensured.origin_of_subperm subperm fun id inside => by
      rw [List.flatMap_singleton] at inside
      exact (made.origin id inside).resolve_left List.not_mem_nil)
  rw [BranchSet.map_pushDiscarded] at climb
  exact climb

section Nested

variable {argument ended expr : NumberedTree} {inner' : Context NodeId}
  {later : List (Step NumberedTree)}

/-- What has been gathered before a conditional of its own is there when that one is made. -/
theorem gathered_nested (climbed : Climbed listed state' above outer
      (call'.fill (member.fill position)) argument {} (chain.goOn (.elseIf argument)) final inner'
      ended expr later) :
    Gathered listed final (Context.fill outer (Context.fill inner' ended)) ended
      (condition :: branches.consequent) := by
  have fewer : (condition :: branches.consequent).Subperm
      (condition :: branches.exprs ++ call'.others .args) :=
    (((List.sublist_append_left _ _).cons_cons condition).trans
      (List.sublist_append_left _ _)).subperm
  exact (ensured.gathered.subperm fewer).leads climbed.rewrites.leads climbed.rewrites.sound
    climbed.beneath (mem_preorder_fill_fill inner' outer ended)

/-- The numbers of a conditional of its own are not beneath the position. -/
theorem new_of_nested (arguments : call'.others .args = [argument])
    (climbed : Climbed listed state' above outer
      (call'.fill (member.fill position)) argument {} (chain.goOn (.elseIf argument)) final inner'
      ended expr later) {id : NodeId} (inside : id ∈ expr.tags) : id ∉ position.tags ∧
      (id ∈ (Context.fill outer (Context.fill (member :: call :: above) position)).tags ∨
        state.live.size ≤ id) := by
  rcases climbed.origin id inside with given | ⟨outside, around⟩
  · refine ensured.new_of_argument ?_
    rw [arguments]
    exact given
  · refine ⟨fun within => outside (mem_tags_of_mem (mem_preorder_next ..) within), ?_⟩
    rcases around with old | fresh
    · exact ensured.rewrites_outer.leads.tags id old
    · exact Or.inr (Nat.le_trans ensured.rewrites_outer.leads.grows fresh)

/-- The expressions of the whole conditional have different numbers. -/
theorem distinct_nested (arguments : call'.others .args = [argument])
    (climbed : Climbed listed state' above outer
      (call'.fill (member.fill position)) argument {} (chain.goOn (.elseIf argument)) final inner'
      ended expr later) :
    ((condition :: (branches.replaceAlternate expr).exprs).flatMap Tree.tags).Nodup := by
  have split : condition :: (branches.replaceAlternate expr).exprs =
      condition :: branches.consequent ++ [expr] := rfl
  rw [split, List.flatMap_append, List.flatMap_singleton, List.nodup_append']
  have gathered := ensured.gathered_nested climbed
  refine ⟨gathered.distinct, climbed.distinct, fun id old new => ?_⟩
  obtain ⟨outside, around⟩ := ensured.new_of_nested arguments climbed new
  -- What was gathered is beneath the position, or an old expression outside the tree.
  have before : id ∈ (condition :: branches.exprs).flatMap Tree.tags := by
    refine List.Sublist.subset (List.Sublist.flatMap ?_ Tree.tags) old
    exact (List.sublist_append_left _ _).cons_cons condition
  rcases ensured.climbing.gathered.mem_or_not_mem before with within | ⟨apart, known⟩
  · exact outside within
  · exact around.elim apart fun fresh => Nat.lt_irrefl id (Nat.lt_of_lt_of_le known fresh)

/-- The numbers of the whole conditional are at the end of the chain or new. -/
theorem apart_nested {id : NodeId}
    (climbed : Climbed listed state' above outer
      (call'.fill (member.fill position)) argument {} (chain.goOn (.elseIf argument)) final inner'
      ended expr later)
    (origin : id ∈ (condition :: (branches.replaceAlternate expr).exprs).flatMap Tree.tags ∨
      final.live.size ≤ id) :
    id ∈ ended.tags ∨ id ∉ (Context.fill outer (Context.fill inner' ended)).tags := by
  rcases origin with old | fresh
  · rcases mem_tags_replaceAlternate.mp old with known | new
    · exact ((ensured.gathered_nested climbed).mem_or_not_mem known).imp_right And.left
    · exact climbed.apart id new
  · exact Or.inr fun within => Nat.lt_irrefl id
      (Nat.lt_of_lt_of_le (climbed.rewrites.sound.reads.lt_size within) fresh)

/-- The numbers of the whole conditional were gathered or are not beneath the position. -/
theorem origin_nested {id : NodeId} (arguments : call'.others .args = [argument])
    (climbed : Climbed listed state' above outer
      (call'.fill (member.fill position)) argument {} (chain.goOn (.elseIf argument)) final inner'
      ended expr later)
    (origin : id ∈ (condition :: (branches.replaceAlternate expr).exprs).flatMap Tree.tags ∨
      final.live.size ≤ id) :
    id ∈ (condition :: branches.exprs).flatMap Tree.tags ∨ (id ∉ position.tags ∧
      (id ∈ (Context.fill outer (Context.fill (member :: call :: above) position)).tags ∨
        state.live.size ≤ id)) := by
  have beneath := mem_preorder_trans (mem_preorder_next member call' position) climbed.beneath
  rcases origin with old | fresh
  · rcases mem_tags_replaceAlternate.mp old with known | new
    · obtain ⟨part, among, deeper⟩ := List.mem_flatMap.mp known
      refine Or.inl (List.mem_flatMap.mpr ⟨part, ?_, deeper⟩)
      exact ((List.sublist_append_left _ _).cons_cons condition).subset among
    · exact Or.inr (ensured.new_of_nested arguments climbed new)
  · have higher := Nat.le_trans
      (ensured.rewrites_outer.trans climbed.rewrites).leads.grows fresh
    refine Or.inr ⟨fun within => ?_, Or.inr higher⟩
    have known := climbed.rewrites.sound.reads.lt_size (mem_tags_of_mem
      (mem_preorder_trans beneath (mem_preorder_fill_fill inner' outer ended)) within)
    exact Nat.lt_irrefl id (Nat.lt_of_lt_of_le known fresh)

/-- **The whole conditional** when its alternate branch is a conditional of its own. -/
theorem climbed_nested {final' : WalkState} {whole : NumberedTree}
    (arguments : call'.others .args = [argument])
    (climbed : Climbed listed state' above outer
      (call'.fill (member.fill position)) argument {} (chain.goOn (.elseIf argument)) final inner'
      ended expr later)
    (grown : LiveTree.Grown final.live final'.live) (same : final'.processed = final.processed)
    (made : Made final.live.size (condition :: (branches.replaceAlternate expr).exprs) final'.live
      whole)
    (loose : Loose listed final'.live whole)
    (image : marked listed whole = MarkedTree.ifExp (marked listed condition)
      ((branches.replaceAlternate expr).map (marked listed))) :
    Climbed listed state (member :: call :: above) outer position condition branches chain final'
      inner' ended whole (.elseIf argument :: later) := by
  have rewrites := ensured.rewrites_outer.trans climbed.rewrites
  refine ⟨rewrites.trans ⟨climbed.rewrites.sound.grown grown same, leads_grown _ grown, rfl⟩,
    mem_preorder_trans (mem_preorder_next member call' position) climbed.beneath, ?_,
    climbed.only, ?_, loose, made.distinct, ?_, ?_, ?_⟩
  · rw [climbed.reading]
    simp [Chain.goOn]
  · rw [List.flatMap_cons]
    intro inside among
    refine (List.mem_append.mp among).elim (fun here => ensured.clean inside ?_)
      (climbed.clean inside)
    rw [arguments]
    exact here
  · have nested := climbed.image
    rw [image, List.map_cons, Step.map, MarkedTree.build, ← BranchSet.map_empty (marked listed),
      ← nested]
    rfl
  · exact fun id inside => ensured.apart_nested climbed (made.origin id inside)
  · exact fun id inside => ensured.origin_nested arguments climbed (made.origin id inside)

end Nested

/-- **A continuation that begins a conditional of its own**, which is the whole alternate branch. -/
theorem meets_elseIf (climbs : Climbs listed resolve entry steps remaining above outer)
    (label : String) (isElseIf : continuation = .elseIf) :
    Meets (do
      let argument ← Shape.singleArgument call.tag label
      Shape.expressionLike argument call.tag label
      let nested ← Expansion.processChain resolve entry steps call.tag argument {} remaining
      let branches := (branches.map Tree.tag).replaceAlternate nested.expr
      return ⟨nested.top, ← Synthesis.conditional branches condition.tag⟩) state'
      (ReachesEnd listed state (member :: call :: above) outer position condition branches chain)
      (Fails listed (member :: call :: above ++ outer) state
        (Context.fill outer (Context.fill (member :: call :: above) position))) := by
  refine ensured.meets_single label (isElseIf ▸ rfl) fun argument arguments starred => ?_
  have adds : Step.of? continuation (call'.others .args) = some (.elseIf argument) := by
    rw [isElseIf, arguments, Step.of?, starred]
    rfl
  have single : (argument :: BranchSet.exprs ({} : BranchSet NumberedTree)).Subperm
      (condition :: branches.exprs ++ call'.others .args) := by
    rw [arguments]
    exact (List.sublist_append_right _ _).subperm
  have climb := climbs state' _ argument {} _
    (ensured.climbing_next adds (.refl _) rfl (ensured.gathered.subperm single))
  have tag : (call'.fill (member.fill position)).tag = call.tag := ensured.tag
  rw [tag] at climb
  refine Meets.bind (climb.imp (fun _ _ reached => reached) fun fault after => ensured.fails (.refl _)) ?_
  rintro result final ⟨ends, inner', ended, expr, later, rfl, climbed⟩
  have gathered := ensured.gathered_nested climbed
  have loose : ∀ part ∈ condition :: (branches.replaceAlternate expr).exprs,
      Loose listed final.live part := by
    intro part among
    have split : part ∈ condition :: branches.consequent ++ [expr] := among
    rcases List.mem_append.mp split with known | new
    · exact gathered.loose part known
    · exact List.mem_singleton.mp new ▸ climbed.loose
  obtain ⟨whole, final', makes, grown, same, made, image⟩ :=
    builds_conditional (fun id member => climbed.rewrites.sound.lt_size member)
      (fun part among => (loose part among).reads) (ensured.distinct_nested arguments climbed)
  have looseWhole := loose_of_image made.reads image fun part among => (loose part among).plain
  refine meets_bind_ok makes (meets_pure ⟨?_, inner', ended, whole, .elseIf argument :: later, rfl,
    ensured.climbed_nested arguments climbed grown same made looseWhole image⟩)
  rw [ensured.endsChain_eq, ensured.admits_of_adds adds, ends]
  rfl

end Ensured

end GoingOn

section Whole

variable {depth : Nat} {resolve : Expansion.Resolver}

/-- A call of what is in its hole does not wall off a context. -/
theorem Walled.exists_tail (walled : Walled outer) {call : Frame NodeId} {around : Context NodeId}
    (same : inner ++ outer = call :: around) (calls : Calls call) :
    ∃ above, inner = call :: above ∧ around = above ++ outer := by
  cases inner with
  | nil =>
    have wall : call ∈ outer.head? := by
      have top : outer = call :: around := same
      rw [top]
      rfl
    exact nomatch calls.role.symm.trans (walled call wall).2
  | cons frame above =>
    obtain ⟨rfl, rfl⟩ := List.cons.inj same
    exact ⟨above, rfl, rfl⟩

/-- Climbing to a call in a context within a walled one does not pass the wall. -/
theorem Walled.exists_above (walled : Walled outer) {member call : Frame NodeId}
    {around : Context NodeId} {name : String} {usage : Usage}
    (same : inner ++ outer = member :: call :: around) (label : member.label = .member name usage)
    (calls : Calls call) : ∃ above, inner = member :: call :: above ∧ around = above ++ outer := by
  cases inner with
  | nil =>
    have wall : member ∈ outer.head? := by
      have top : outer = member :: call :: around := same
      rw [top]
      rfl
    exact nomatch label.symm.trans (walled member wall).1
  | cons frame rest =>
    obtain ⟨rfl, tail⟩ := List.cons.inj same
    obtain ⟨above, rfl, rfl⟩ := walled.exists_tail tail calls
    exact ⟨above, rfl, rfl⟩

/-- **Climbing a chain to its end.** -/
theorem climbs_of_lt (resolves : Resolves listed depth resolve) (entry : String)
    (walled : Walled outer) (short : remaining.length ≤ depth) (subset : remaining ⊆ listed)
    {steps : Nat} (enough : inner.length < steps) :
    Climbs listed resolve entry steps remaining inner outer := by
  induction steps generalizing inner with
  | zero => exact absurd enough (Nat.not_lt_zero _)
  | succ steps ih =>
    intro state position condition branches chain climbing
    have sound := climbing.sound
    rw [← fill_append] at sound
    unfold Expansion.processChain
    refine meets_nextCall entry sound ?_ fun malformed fault location =>
      ⟨⟨fault, location, rfl⟩, Or.inl malformed, climbing.sound.leaves⟩
    intro member call around name usage continuation same label named calls
    obtain ⟨above, rfl, rfl⟩ := walled.exists_above same label calls
    by_cases terminal : continuation.isTerminal = true
    · rw [if_pos terminal]
      exact meets_end climbing label named calls terminal
    rw [if_neg terminal]
    have soundCall : Sound listed state
        (Context.fill (above ++ outer) (call.fill (member.fill position))) := sound
    refine Meets.bind ((meets_ensureCall resolves short subset calls soundCall
      (climbing.covered_arguments)).imp (fun _ _ ensured => ensured) ?_) ?_
    · rintro fault after ⟨shape, blamed, leaves⟩
      rw [fill_append] at blamed leaves
      exact ⟨shape, Or.inr blamed, leaves⟩
    rintro - state' ⟨call', tag, calls', alike, rewrites, clean⟩
    have reads : state'.live.Reads (call'.fill (member.fill position)) :=
      rewrites.sound.reads.of_mem (mem_preorder_fill _ _)
    refine (calls'.checks_noKeywords _ reads tag).bind (fun keywords => ?_)
      fun some fault location => ⟨⟨fault, location, rfl⟩, Or.inl ?_, ?_⟩
    · have goesOn : continuation.isTerminal = false := Bool.eq_false_iff.mpr terminal
      have ensured : Ensured listed state member call above outer position condition branches chain
          remaining continuation state' call' :=
        ⟨climbing, ⟨name, usage, label, named⟩, goesOn, tag, calls', alike, rewrites, clean,
          keywords⟩
      have climbs : Climbs listed resolve entry steps remaining above outer :=
        ih (by simp only [List.length_cons] at enough; omega)
      cases continuation with
      | finish => exact absurd rfl terminal
      | finishMarked => exact absurd rfl terminal
      | elseIf => exact ensured.meets_elseIf climbs _ rfl
      | thenDo => exact ensured.meets_discarded climbs fun _ => rfl
      | elseDo => exact ensured.meets_discarded climbs fun _ => rfl
      | andThen =>
        refine ensured.meets_value climbs _ rfl fun argument starred => ?_
        rw [Step.of?, starred]
        rfl
      | orElse =>
        refine ensured.meets_value climbs _ rfl fun argument starred => ?_
        rw [Step.of?, starred]
        rfl
    · have plain : call.isPlainCall = false := by
        rw [isPlainCall_congr alike]
        exact Bool.eq_false_iff.mpr fun plain => some (calls'.isPlainCall_iff.mp plain)
      have ends : Context.endsChain (member :: call :: (above ++ outer)) = _ :=
        endsChain_next label named
      rw [List.cons_append, List.cons_append, ends, plain]
      rfl
    · rw [← fill_append]
      exact ⟨_, rewrites.sound, rewrites.leads⟩

end Whole

end NumberedTree

end IfChains
