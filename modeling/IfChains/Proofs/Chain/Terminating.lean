/-
**Walks along chains end.**

Calls and members are those of the tree that was read: none is ever made, and where the walk climbs
from one to another, that one is higher up in that tree as well. So a climb along a chain is no
longer than one in that tree, whatever was put into it and whatever the recorded parents have
become. The expansion of the chains inside arguments is handed ever shorter lists. All other climbs,
and the recording of parents, end because the table can be traced back.

* `Traceable`: the table of a state can be traced back;
* `finishes_contains`, `finishes_replace`: asking what lies beneath a node, and replacing one;
* `finishes_processChain`: the climb along a chain;
* `finishes_resolver`: the expansion of a chain, with those inside its arguments;
* `Tree.dispatch_finishes`: **the expansion of any list ends, whatever was asked before.**
-/

import IfChains.Proofs.Chain.Counted
import IfChains.Proofs.Chain.Program
import IfChains.Proofs.Chain.Requests

namespace IfChains

open IfChains.Walk

namespace LiveTree

/-- The table of a state can be traced back to an earlier one. -/
def Traceable (start : LiveTree) (root : NodeId) (state : WalkState) : Prop :=
  ∃ home spent, Traced start state.live root home spent

variable {α β : Type} {start : LiveTree} {root id above old new : NodeId} {state : WalkState}
  {limit : Nat} {holds : WalkState → Prop}

section States

theorem Traceable.grounded (traceable : Traceable start root state) : state.live.Grounded := by
  obtain ⟨home, spent, traced⟩ := traceable
  exact traced.grounded

theorem Traceable.size (traceable : Traceable start root state) :
    start.size ≤ state.live.size := by
  obtain ⟨home, spent, traced⟩ := traceable
  exact traced.size

/-- **From one of the first nodes to a call or a member** a parent leads as it did at first. -/
theorem Traceable.rises (traceable : Traceable start root state) (known : id < start.size)
    (rises : state.live.Rises id above)
    (label : state.live.label above = .call ∨
      ∃ name usage, state.live.label above = .member name usage) :
    start.Rises id above ∧ above < start.size := by
  obtain ⟨home, spent, traced⟩ := traceable
  have knownAbove : above < start.size := by
    rcases label with isCall | ⟨name, usage, isMember⟩
    · exact traced.lt_size_of_call isCall
    · exact traced.lt_size_of_member isMember
  have before := (traced.rises rises).2.1 knownAbove
  rw [traced.old id known] at before
  exact ⟨before, knownAbove⟩

/-- Making the value of a branch that has none. -/
theorem upholds_undefined : Upholds (Traceable start root) Walk.undefined fun _ => True := by
  rintro state ⟨home, spent, traced⟩
  exact ⟨⟨home, spent, traced.adds (adds_push (by simp))⟩, trivial⟩

end States

section Containing

/-- **Asking whether a node contains another one**, where climbing ends. -/
theorem finishes_contains {next : LiveTree → Walk β} {next' : Bool → Walk β}
    (grounded : ∀ state, holds state → state.live.Grounded) (above id : NodeId)
    (rest : ∀ live : LiveTree, Finishes limit holds (next' (live.contains above id)) (next live)) :
    Finishes limit holds (Counted.contains limit above id >>= next') (Walk.live >>= next) := by
  refine ⟨fun {state} held => (rest state.live).grows held,
    fun {state} held => (rest state.live).calm held, fun {state} held fewer => ?_⟩
  have size := (rest state.live).grows held
  have enough : state.live.height id < limit :=
    Nat.lt_of_le_of_lt height_le (Nat.lt_of_le_of_lt size fewer)
  have told : (Counted.contains limit above id).outcome state =
      (.ok (state.live.contains above id), state) := by
    rw [Counted.contains, outcome_bind_ok outcome_live,
      (grounded state held).reachesWithin?_eq enough (Nat.lt_succ_of_le height_le)]
    rfl
  rw [outcome_bind_ok told, outcome_bind_ok outcome_live]
  exact (rest state.live).same held fewer

end Containing

section Replacing

/-- If a node can be put in the place of another one, a tree is read beneath it, in which the place
is not. -/
def Replaceable (old new : NodeId) (state : WalkState) : Prop :=
  ∀ live, state.live.replace? old new = some live → ∃ tree : NumberedTree, tree.tag = new ∧
    state.live.Reads tree ∧ tree.tags.Nodup ∧
    ∀ parent, state.live.parent? old = some parent → parent ∉ tree.tags

/-- **Replacing a node** records the parents beneath the new one in so many turns as there are
nodes. -/
theorem finishes_replace : Finishes limit (Replaceable old new) (Counted.replace limit old new)
    (Walk.replace old new) := by
  refine ⟨fun {state} _ => ?_, fun {state} _ => ?_, fun {state} replaceable fewer => ?_⟩ <;>
    rcases replaced : state.live.replace? old new with - | live
  · rw [outcome_replace_none replaced]
  · rw [outcome_replace replaced]
    exact (replace?_leaves replaced).1.ge
  · rw [outcome_replace_none replaced]
    exact nofun
  · rw [outcome_replace replaced]
    exact nofun
  all_goals
    have looks : (get : Walk WalkState).outcome state = (.ok state, state) := rfl
    rw [Counted.replace, outcome_bind_ok looks]
    rcases swapped : state.live.swapped? old new with - | table <;>
      rw [replace?_eq_swapped?, swapped] at replaced <;> cases replaced
  · rw [outcome_replace_none (replace?_eq_swapped?.trans (by rw [swapped]; rfl))]
    rfl
  · have replaced : state.live.replace? old new = some (table.index table.size new) :=
      replace?_eq_swapped?.trans (by rw [swapped]; rfl)
    obtain ⟨tree, rfl, reads, distinct, apart⟩ := replaceable _ replaced
    obtain ⟨size, readsTable⟩ := reads.swapped apart swapped
    rw [outcome_replace replaced, (replace?_leaves replaced).1, ← size] at fewer
    simp only [readsTable.indexWithin?_eq distinct (Nat.le_of_lt fewer)]
    rw [outcome_replace replaced]
    rfl

end Replacing

section Steps

variable {resolve resolve' : Expansion.Resolver} {entry : String} {call : NodeId} {bound : Nat}
  (keeps : ∀ reference later,
    Upholds (Traceable start root) (resolve reference later) fun _ => True)
  (shorter : ∀ reference later, later.length < bound →
    Finishes limit (Traceable start root) (resolve' reference later) (resolve reference later))

include keeps shorter

/-- The expansion of the chains inside an argument. -/
theorem finishes_processArgument (call : NodeId) (index : Nat) {remaining : List NodeId}
    (short : remaining.length ≤ bound) :
    Finishes limit (Traceable start root)
      (Counted.processArgument limit resolve' call index remaining)
      (Expansion.processArgument resolve call index remaining) := by
  induction remaining with
  | nil => exact finishes_pure ()
  | cons reference later ih =>
    have rest := ih (Nat.le_of_lt short)
    unfold Counted.processArgument Expansion.processArgument
    refine Finishes.look (looks_isProcessed reference) (stops_isProcessed reference) fun known => ?_
    split
    · refine Finishes.look (looks_nodesOf .args call) (stops_nodesOf .args call) fun arguments => ?_
      cases arguments[index]? with
      | none => exact finishes_throw_bind (by simp)
      | some argument =>
        refine finishes_contains (fun _ held => held.grounded) argument reference fun live => ?_
        split
        · exact (shorter reference later short).kept (keeps reference later) fun _ => rest
        · exact rest
    · exact rest

/-- **The expansion of the chains inside the arguments of a call.** -/
theorem finishes_ensureArguments (call : NodeId) {remaining : List NodeId}
    (short : remaining.length ≤ bound) :
    Finishes limit (Traceable start root) (Counted.ensureArguments limit resolve' call remaining)
      (Expansion.ensureArguments resolve call remaining) := by
  refine Finishes.look (looks_nodesOf .args call) (stops_nodesOf .args call) fun arguments => ?_
  generalize List.range arguments.length = indices
  induction indices with
  | nil => exact finishes_pure ()
  | cons index rest ih =>
    exact (finishes_processArgument keeps shorter call index short).kept
      (upholds_processArgument keeps call index remaining) fun _ => ih

/-- **The climb along a chain** ends: the walk goes up in the first table as well. -/
theorem finishes_processChain (whole : start.Whole) {remaining : List NodeId}
    (short : remaining.length ≤ bound) {steps turns : Nat} {position : NodeId}
    (known : position < start.size) (enough : start.height position < steps)
    (enough' : start.height position < turns) (condition : NodeId) (branches : BranchSet NodeId) :
    Finishes limit (Traceable start root)
      (Counted.processChain limit resolve' entry turns position condition branches remaining)
      (Expansion.processChain resolve entry steps position condition branches remaining) := by
  induction steps generalizing turns position condition branches with
  | zero => omega
  | succ steps ih =>
    obtain ⟨turns, rfl⟩ : ∃ rest, turns = rest + 1 := ⟨turns - 1, by omega⟩
    unfold Counted.processChain Expansion.processChain
    refine Finishes.check (fun parent state => parent = state.live.parent? position ∧
      Traceable start root state) (looks_parentOf position) (stops_parentOf position)
      (fun held found => ⟨(Except.ok.inj (Prod.mk.inj found).1).symm, held⟩) fun parent => ?_
    refine Finishes.check (fun member state => (start.Rises position member ∧ member < start.size) ∧
      Traceable start root state) (looks_nextMember entry parent position)
      (stops_nextMember entry parent position) ?_ fun member => Finishes.of_fact fun up => ?_
    · rintro state member after ⟨rfl, held⟩ found
      obtain ⟨rises, isMember⟩ := of_nextMember found
      exact ⟨held.rises known rises (Or.inr isMember), held⟩
    refine Finishes.look (looks_continuationOf entry member) (stops_continuationOf entry member)
      fun continuation => ?_
    refine Finishes.check (fun parent state => parent = state.live.parent? member ∧
      Traceable start root state) (looks_parentOf member) (stops_parentOf member)
      (fun held found => ⟨(Except.ok.inj (Prod.mk.inj found).1).symm, held⟩) fun parent => ?_
    refine Finishes.check (fun call state => (start.Rises member call ∧ call < start.size) ∧
      Traceable start root state) (looks_invocation parent member _)
      (stops_invocation parent member _) ?_ fun call => Finishes.of_fact fun up' => ?_
    · rintro state call after ⟨rfl, held⟩ found
      obtain ⟨rises, isCall, -⟩ := of_invocation found
      exact ⟨held.rises up.2 rises (Or.inl isCall), held⟩
    have higher := whole.grounded.height_lt up.1
    have higher' := whole.grounded.height_lt up'.1
    have climb := fun condition branches =>
      @ih turns call up'.2 (by omega) (by omega) condition branches
    split
    · refine Finishes.look (looks_noArguments call _) (stops_noArguments call _) fun _ => ?_
      refine Finishes.look (looks_noKeywords call _) (stops_noKeywords call _) fun _ => ?_
      exact finishes_quiet ((Recording.quiet_conditional _ _).bind fun _ =>
        Recording.quiet_looks (looks_pure _)) ((stops_conditional _ _).bind fun _ => stops_pure _)
    refine (finishes_ensureArguments keeps shorter call short).kept
      (upholds_ensureArguments keeps call remaining) fun _ => ?_
    refine Finishes.look (looks_noKeywords call _) (stops_noKeywords call _) fun _ => ?_
    split
    · refine Finishes.look (looks_singleArgument call _) (stops_singleArgument call _) fun _ => ?_
      refine Finishes.look (looks_expressionLike _ call _) (stops_expressionLike _ call _)
        fun _ => ?_
      refine (climb _ _).bind (fun _ _ => True) (fun _ _ => trivial) fun nested => ?_
      exact finishes_quiet ((Recording.quiet_conditional _ _).bind fun _ =>
        Recording.quiet_looks (looks_pure _)) ((stops_conditional _ _).bind fun _ => stops_pure _)
    cases Branch.ofContinuation continuation with
    | error fault => split <;> exact finishes_throw_bind (by simp)
    | ok branch =>
      split
      · refine Finishes.look (looks_pure branch) (stops_pure branch) fun branch => ?_
        refine Finishes.look (looks_singleArgument call _) (stops_singleArgument call _) fun _ => ?_
        refine Finishes.look (looks_expressionLike _ call _) (stops_expressionLike _ call _)
          fun _ => ?_
        exact climb _ _
      · refine Finishes.look (looks_pure branch) (stops_pure branch) fun branch => ?_
        refine Finishes.look (looks_nodesOf .args call) (stops_nodesOf .args call) fun _ => ?_
        exact (finishes_quiet (Recording.quiet_make _ _) (stops_make _ _)).kept upholds_undefined
          fun _ => climb _ _

section Whole

variable (whole : start.Whole) (known : root < start.size) (rootless : start.parent? root = none)
  (most : start.size ≤ limit)

include whole known rootless most

/-- The climb from a call takes fewer steps than there are nodes. -/
theorem finishes_walkChain {remaining : List NodeId} (short : remaining.length ≤ bound)
    (isNode : call < start.size) (condition : NodeId) :
    Finishes limit (Traceable start root)
      (Counted.processChain limit resolve' entry limit call condition {} remaining)
      (Expansion.walkChain resolve entry call condition remaining) := by
  have steps : start.height call < start.size := height_lt_size known rootless
  have climb : ∀ state, Traceable start root state → Finishes limit (Traceable start root)
      (Counted.processChain limit resolve' entry limit call condition {} remaining)
      (Expansion.processChain resolve entry state.live.size call condition {} remaining) :=
    fun state held => finishes_processChain keeps shorter whole short isNode
      (Nat.lt_of_lt_of_le steps held.size) (Nat.lt_of_lt_of_le steps most) condition {}
  exact ⟨fun held => (climb _ held).grows held, fun held => (climb _ held).calm held,
    fun held => (climb _ held).same held⟩

/-- **Coming to the end of the chain of a reference.** -/
theorem finishes_reach (reference : NodeId) {remaining : List NodeId}
    (short : remaining.length ≤ bound) :
    Finishes limit (Traceable start root)
      (Counted.reach limit resolve' entry reference remaining)
      (Expansion.reach resolve entry reference remaining) := by
  unfold Counted.reach Expansion.reach
  refine Finishes.look (looks_parentOf reference) (stops_parentOf reference) fun parent => ?_
  refine Finishes.check (fun call state => call < start.size ∧ Traceable start root state)
    (looks_invocation parent reference entry) (stops_invocation parent reference entry) ?_
    fun call => Finishes.of_fact fun isNode => ?_
  · rintro state call after ⟨home, spent, traced⟩ found
    exact ⟨traced.lt_size_of_call (of_invocation found).2.1, home, spent, traced⟩
  refine (finishes_ensureArguments keeps shorter call short).kept
    (upholds_ensureArguments keeps call remaining) fun _ => ?_
  refine Finishes.look (looks_noKeywords call _) (stops_noKeywords call _) fun _ => ?_
  refine Finishes.look (looks_singleArgument call _) (stops_singleArgument call _)
    fun condition => ?_
  refine Finishes.look (looks_expressionLike _ call _) (stops_expressionLike _ call _) fun _ => ?_
  exact (finishes_walkChain keeps shorter whole known rootless most short isNode condition).bind
    (fun _ _ => True) (fun _ _ => trivial) fun result => finishes_pure (call, result)

end Whole

end Steps

section Expanding

variable (whole : start.Whole) (known : root < start.size) (entry : String)

include whole known

omit known in
/-- **At the end of a chain** what is made can be put in its place. -/
theorem AtEnd.replaceable {zone spent : Set NodeId} {live : LiveTree} {reference : NodeId}
    {reached : NodeId × Expansion.ChainResult}
    (atEnd : AtEnd start root zone live spent reference reached state) :
    Replaceable reached.2.top reached.2.expr state := by
  obtain ⟨middle, home', spent', spent'', path', condition, -, -, -, -, arrived⟩ := atEnd
  intro live' replaced
  obtain ⟨above, tree, tag, grafting⟩ := arrived.exists_grafting whole replaced
  refine ⟨tree, tag, grafting.graft.reads, grafting.graft.distinct, fun parent rises => ?_⟩
  rw [Rises.unique rises grafting.rises]
  exact grafting.above_not_mem

/-- What is made for the chain of a reference can be put in its place. -/
theorem replaceable_of_reach {depth : Nat} {reference call : NodeId} {later : List NodeId}
    {result : Expansion.ChainResult} {after : WalkState} (traceable : Traceable start root state)
    (reached : (Expansion.reach (Expansion.resolver entry depth) entry reference later).outcome
      state = (.ok (call, result), after)) : Replaceable result.top result.expr after := by
  obtain ⟨home, spent, traced⟩ := traceable
  have met := @meets_reach start root Set.univ spent home state _ whole
    (safe_resolver whole known entry depth) entry reference later traced
    fun _ _ _ _ => confined_univ
  rw [Meets, reached] at met
  exact AtEnd.replaceable whole met

variable (rootless : start.parent? root = none) (most : start.size ≤ limit)

include rootless most

/-- **The expansion of a chain**, with those inside its arguments, which are among ever fewer
references. -/
theorem finishes_resolver {depth depth' : Nat} {reference : NodeId} {later : List NodeId}
    (deep : later.length < depth) (deep' : later.length < depth') :
    Finishes limit (Traceable start root) (Counted.resolver limit entry depth' reference later)
      (Expansion.resolver entry depth reference later) := by
  induction depth generalizing depth' reference later with
  | zero => omega
  | succ depth ih =>
    obtain ⟨depth', rfl⟩ : ∃ rest, depth' = rest + 1 := ⟨depth' - 1, by omega⟩
    rw [Expansion.resolver, Counted.resolver, Expansion.expandReference_eq, Counted.expandReference]
    refine Finishes.look (looks_isProcessed reference) (stops_isProcessed reference) fun done => ?_
    split
    · exact finishes_pure false
    have nested : ∀ reference shorter, shorter.length < later.length →
        Finishes limit (Traceable start root)
          (Counted.resolver limit entry depth' reference shorter)
          (Expansion.resolver entry depth reference shorter) :=
      fun reference shorter less => ih (Nat.lt_of_lt_of_le less (Nat.le_of_lt_succ deep))
        (Nat.lt_of_lt_of_le less (Nat.le_of_lt_succ deep'))
    have reach : Finishes limit (Traceable start root)
        (Counted.reach limit (Counted.resolver limit entry depth') entry reference later)
        (Expansion.reach (Expansion.resolver entry depth) entry reference later) :=
      finishes_reach (upholds_resolver_traced whole known entry depth) nested whole known rootless
        most reference (Nat.le_refl later.length)
    refine reach.bind (fun reached => Replaceable reached.2.top reached.2.expr)
      (fun held came => replaceable_of_reach whole known entry held came) ?_
    rintro ⟨call, result⟩
    exact finishes_replace.bind (fun _ _ => True) (fun _ _ => trivial) fun _ =>
      finishes_same (fun _ => Nat.le_refl _) fun _ => nofun

/-- **The expansion of the chains of a list.** -/
theorem finishes_processAll {references : List NodeId} (fewer : references.length ≤ limit) :
    Finishes limit (Traceable start root) (Counted.processAll limit entry references)
      (Expansion.processAll entry references) := by
  induction references with
  | nil => exact finishes_pure ()
  | cons reference later ih =>
    have rest := ih (Nat.le_of_lt fewer)
    unfold Counted.processAll Expansion.processAll
    refine Finishes.look (looks_isProcessed reference) (stops_isProcessed reference) fun done => ?_
    split
    · exact (finishes_resolver whole known entry rootless most (Nat.lt_succ_self _) fewer).kept
        (upholds_resolver_traced whole known entry _ reference later) fun _ => rest
    · exact rest

/-- **The expansion of the chains of a list**, with the count of those expanded. -/
theorem finishes_dispatch {references : List NodeId} (fewer : references.length ≤ limit) :
    Finishes limit (Traceable start root) (Counted.dispatch limit entry references)
      (Expansion.dispatch entry references) := by
  unfold Counted.dispatch Expansion.dispatch
  refine Finishes.bind (fun _ => Traceable start root) (finishes_same (fun _ => Nat.le_refl _) ?_)
    (fun held reset => ?_) fun _ => ?_
  · exact fun _ => nofun
  · obtain rfl := (Prod.mk.inj reset).2
    exact held
  · exact (finishes_processAll whole known entry rootless most fewer).bind (fun _ _ => True)
      (fun _ _ => trivial) fun _ => finishes_same (fun _ => Nat.le_refl _) fun _ => nofun

end Expanding

end LiveTree

namespace Tree

open LiveTree

/-- **The expansion of any list ends**, whatever a tree was asked before, granted or refused. It is
not endless; and however long the climbs along chains and along recorded parents, the recording of
parents and the nesting of expansions may get, it comes to what it comes to if each of them may take
more turns than there are nodes in the end and no fewer than there are references. -/
theorem dispatch_finishes (tree : SourceTree) (requests : List Request) (entry : String)
    (references processed : List NodeId) (remarks : List Remark) :
    let state : WalkState := ⟨tree.asked requests, processed, remarks⟩
    let outcome := (Expansion.dispatch entry references).outcome state
    outcome.1 ≠ .error .endless ∧
      ∀ limit, outcome.2.live.size < limit → references.length ≤ limit →
        (Counted.dispatch limit entry references).outcome state = outcome := by
  intro state outcome
  obtain ⟨whole, known, rootless⟩ := whole_ofTree tree
  have traceable : Traceable (ofTree tree).2 (ofTree tree).1 state := exists_traced tree requests
  have finishes : ∀ limit, (ofTree tree).2.size ≤ limit → references.length ≤ limit →
      Finishes limit (Traceable (ofTree tree).2 (ofTree tree).1)
        (Counted.dispatch limit entry references) (Expansion.dispatch entry references) :=
    fun limit most fewer => finishes_dispatch whole known entry rootless most fewer
  have some := finishes (max (ofTree tree).2.size references.length) (Nat.le_max_left ..)
    (Nat.le_max_right ..)
  refine ⟨some.calm traceable, fun limit more fewer => ?_⟩
  have grown : (ofTree tree).2.size ≤ outcome.2.live.size :=
    traceable.size.trans (some.grows traceable)
  exact (finishes limit (grown.trans (Nat.le_of_lt more)) fewer).same traceable more

/-- The outer chain of a program is expanded after the inner one, in so many turns. -/
theorem dispatch_finishes_nestedChains :
    let state : WalkState := ⟨nestedChains.asked [.dispatch "when" [4]], [], []⟩
    let outcome := (Expansion.dispatch "when" [0]).outcome state
    outcome.2.live.size < 22 ∧ (Counted.dispatch 22 "when" [0]).outcome state = outcome := by
  have fewer : ((Expansion.dispatch "when" [0]).outcome
      ⟨nestedChains.asked [.dispatch "when" [4]], [], []⟩).2.live.size < 22 := by decide +kernel
  exact ⟨fewer, (dispatch_finishes nestedChains [.dispatch "when" [4]] "when" [0] [] []).2 22
    fewer (by decide)⟩

end Tree

end IfChains
