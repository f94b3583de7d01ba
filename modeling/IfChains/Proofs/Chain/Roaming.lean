/-
**Walks over tables that can be traced back.**

A walk may be given any references, in any order, some of them of chains that are gone. Whatever it
comes to, and whether it returns or stops, the table can be traced back afterwards, and all that has
happened has happened in a zone around the chain that it was to expand.

* `Roams`: where a walk has come to;
* `upholds_ensureArguments_inside`: expanding what is inside the arguments of a call stays in there;
* `meets_reach`: coming to the end of a chain, where a walk is `AtEnd`;
* `safe_resolver`: every resolver is safe.
-/

import IfChains.Proofs.Chain.Inversion
import IfChains.Proofs.Chain.Resolution
import IfChains.Proofs.Chain.Underway

namespace IfChains

open IfChains.Walk

namespace LiveTree

variable {start live : LiveTree} {root : NodeId} {zone spent : Set NodeId} {bound : Nat}
  {home : NodeId → NodeId} {state : WalkState} {call : NodeId} {resolve : Expansion.Resolver}

/-- What a walk has come to from a table: the table that it leaves can be traced back, and what has
happened since has happened in a zone. -/
def Roams (start : LiveTree) (root : NodeId) (zone : Set NodeId) (bound : Nat) (live : LiveTree)
    (spent : Set NodeId) (state : WalkState) : Prop :=
  ∃ home' spent', Traced start state.live root home' spent' ∧
    Ranges start zone bound live spent state.live spent'

/-- A resolver does no more than expand chains in the zone of the chain that it is to expand. -/
def Safe (start : LiveTree) (root : NodeId) (resolve : Expansion.Resolver) : Prop :=
  ∀ (zone : Set NodeId) (home : NodeId → NodeId) (spent : Set NodeId) (state : WalkState)
    (reference : NodeId) (later : List NodeId), Traced start state.live root home spent →
    (∀ head, state.live.Rises reference head → start.label head = .call →
      (.func, reference) ∈ state.live.slots head → start.Confined zone head) →
    Meets (resolve reference later) state
      (fun _ after => Roams start root zone state.live.size state.live spent after)
      fun _ after => Roams start root zone state.live.size state.live spent after

section Arguments

theorem roams_refl (traced : Traced start state.live root home spent) :
    Roams start root zone bound state.live spent state :=
  ⟨home, spent, traced, .refl⟩

/-- A walk from where another one has come to. -/
theorem Ranges.roams {live' : LiveTree} {spent' : Set NodeId}
    (ranges : Ranges start zone bound live spent live' spent') (lower : bound ≤ live.size)
    (roams : Roams start root zone live'.size live' spent' state) :
    Roams start root zone bound live spent state := by
  obtain ⟨home'', spent'', traced, further⟩ := roams
  exact ⟨home'', spent'', traced, ranges.trans
    (further.mono subset_rfl (Nat.le_trans lower ranges.size))⟩

/-- What a walk from a table comes to may be said in a wider zone. -/
theorem Roams.mono {zone' : Set NodeId} (roams : Roams start root zone bound live spent state)
    (wider : zone ⊆ zone') : Roams start root zone' bound live spent state := by
  obtain ⟨home', spent', traced, ranges⟩ := roams
  exact ⟨home', spent', traced, ranges.mono wider (Nat.le_refl _)⟩

/-- The chain of a reference inside an argument stays in there. -/
theorem Traced.confined_reference (traced : Traced start live root home spent)
    (whole : start.Whole) {argument reference head : NodeId}
    (isArgument : live.Argument call argument) (climbs : live.Climbs reference argument)
    (rises : live.Rises reference head) (isCall : start.label head = .call)
    (callee : (.func, reference) ∈ live.slots head) :
    start.Confined (start.inArguments call) head := by
  have known : head < start.size := lt_size_of_label (by simp [isCall])
  have isArgument' := traced.argument_home isArgument
  have other : reference ≠ argument := by
    rintro rfl
    obtain rfl := ((traced.rises rises).2.1 known).unique (whole.rises isArgument'.2)
    exact nomatch whole.role_unique isArgument'.2 (traced.slot_home known callee)
  have inside := traced.climbs (climbs.of_rises other rises)
  rw [traced.old head known] at inside
  exact confined_arguments whole isArgument' inside

variable (whole : start.Whole) (safe : Safe start root resolve) (isCall : start.label call = .call)
  (lower : bound ≤ live.size)

include whole safe isCall lower

/-- What a walk does with the references inside an argument of a call stays in there. -/
theorem upholds_processArgument_inside (index : Nat) (remaining : List NodeId) :
    Upholds (Roams start root (start.inArguments call) bound live spent)
      (Expansion.processArgument resolve call index remaining) fun _ => True := by
  induction remaining with
  | nil => exact upholds_pure trivial
  | cons reference later ih =>
    unfold Expansion.processArgument
    refine upholds_look (looks_isProcessed reference) fun processed => ?_
    split
    · rintro state ⟨home, spent', traced, ranges⟩
      have known : call < start.size := lt_size_of_label (by simp [isCall])
      have isCall' : state.live.label call = .call := (traced.label call known).trans isCall
      refine meets_bind_ok (outcome_argumentsOf_call isCall') ?_
      split
      · rename_i argument found
        have isArgument : state.live.Argument call argument :=
          ⟨isCall', mem_having.mp (List.mem_of_getElem? found)⟩
        refine meets_bind_ok outcome_live ?_
        split
        · rename_i contains
          have climbs := climbs_of_contains contains
          have resolved := safe _ home spent' state reference later traced
            fun head rises isHead callee =>
              traced.confined_reference whole isArgument climbs rises isHead callee
          exact (resolved.imp (fun _ _ roams => ranges.roams lower roams)
            fun _ _ roams => ranges.roams lower roams).bind fun _ after roams => ih after roams
        · exact ih state ⟨home, spent', traced, ranges⟩
      · exact upholds_throw_bind _ state ⟨home, spent', traced, ranges⟩
    · exact ih

/-- **Expanding what is inside the arguments of a call** stays in there. -/
theorem upholds_ensureArguments_inside (remaining : List NodeId) :
    Upholds (Roams start root (start.inArguments call) bound live spent)
      (Expansion.ensureArguments resolve call remaining) fun _ => True := by
  refine upholds_look (looks_nodesOf .args call) fun arguments => ?_
  generalize List.range arguments.length = indices
  induction indices with
  | nil => exact upholds_pure trivial
  | cons index rest ih =>
    exact (upholds_processArgument_inside whole safe isCall lower index remaining).bind
      fun _ _ => ih

end Arguments

section Climbing

variable {live' : LiveTree} {head position member argument condition : NodeId}
  {branches branches' : BranchSet NodeId} {home' : NodeId → NodeId} {spent' : Set NodeId}
  {path path' exprs : List NodeId} {entry : String} {remaining : List NodeId} {steps : Nat}

/-- What the climb from any call of a chain comes to, given a number of steps. -/
def Ascends (start : LiveTree) (root : NodeId) (zone : Set NodeId) (head : NodeId)
    (resolve : Expansion.Resolver) (entry : String) (remaining : List NodeId) (steps : Nat) : Prop :=
  ∀ (home : NodeId → NodeId) (spent : Set NodeId) (state : WalkState)
    (position condition : NodeId) (branches : BranchSet NodeId) (path : List NodeId),
    Underway start state.live root home spent head position path (condition :: branches.exprs) →
    Meets (Expansion.processChain resolve entry steps position condition branches remaining) state
      (fun result after => ∃ home' spent' path', Arrived start state.live after.live root zone home'
        spent spent' head path path' (condition :: branches.exprs) result)
      fun _ after => Roams start root zone state.live.size state.live spent after

/-- The walk has come to a call that does not end its chain, and what is inside the arguments of
that call is done. -/
structure Ensured (start live live' : LiveTree) (root : NodeId) (zone : Set NodeId)
    (home' : NodeId → NodeId) (spent spent' : Set NodeId) (head position : NodeId)
    (path exprs : List NodeId) (member call : NodeId) : Prop where
  underway : Underway start live' root home' spent' head position path exprs
  spine : start.Spine head call (call :: member :: path)
  fresh : call ∉ path
  goesOn : ¬start.Ends call
  isCall : live'.label call = .call
  ranges : Ranges start zone live.size live spent live' spent'
  kept : ∀ call ∈ path, ∀ argument, live.Argument call argument → live'.Argument call argument

namespace Ensured

variable (ensured : Ensured start live state.live root zone home' spent spent' head position path
  (condition :: branches.exprs) member call) (whole : start.Whole)
  (ascends : Ascends start root zone head resolve entry remaining steps)

include ensured whole ascends

omit whole in
/-- **Climbing on** after something has been gathered. -/
theorem meets_climb {state' : WalkState} {extra : List NodeId} {condition' : NodeId}
    (next : Underway start state'.live root home' spent' head call (call :: member :: path)
      (condition :: branches.exprs ++ state.live.having .args call ++ extra))
    (fewer : (condition' :: branches'.exprs).Subperm
      (condition :: branches.exprs ++ state.live.having .args call ++ extra))
    (grown : Grown state.live state'.live) (new : ∀ id ∈ extra, live.size ≤ id)
    (ranges : Ranges start zone live.size live spent state'.live spent') :
    Meets (Expansion.processChain resolve entry steps call condition' branches' remaining) state'
      (fun result after => ∃ home' spent' path', Arrived start live after.live root zone home' spent
        spent' head path path' (condition :: branches.exprs) result)
      fun _ after => Roams start root zone live.size live spent after := by
  refine (ascends home' spent' state' call condition' branches' _ (next.subperm fewer)).imp ?_
    fun _ _ roams => ranges.roams (Nat.le_refl _) roams
  rintro result after ⟨home'', spent'', path'', arrived⟩
  refine ⟨home'', spent'', path'', arrived.back ranges
    (fun id onPath => List.mem_cons_of_mem _ (List.mem_cons_of_mem _ onPath))
    (fun call onPath argument isArgument =>
      grown.argument_kept (ensured.kept call onPath argument isArgument)) fun expr among => ?_⟩
  rcases List.mem_append.mp (fewer.subset among) with known | made
  · rcases List.mem_append.mp known with old | isArgument
    · exact Or.inl old
    · exact Or.inr (Or.inr ⟨call, List.mem_cons_self, ensured.fresh,
        grown.argument_kept ⟨ensured.isCall, mem_having.mp isArgument⟩⟩)
  · exact Or.inr (Or.inl (new expr made))

/-- A continuation that adds a value to a branch. -/
theorem meets_value (label : String) (branch : Branch) :
    Meets (do
      let argument ← Shape.singleArgument call label
      Shape.expressionLike argument call label
      Expansion.processChain resolve entry steps call condition (branches.push branch argument)
        remaining) state
      (fun result after => ∃ home' spent' path', Arrived start live after.live root zone home' spent
        spent' head path path' (condition :: branches.exprs) result)
      fun _ after => Roams start root zone live.size live spent after := by
  have stopped : ∀ _ : WalkFault, Roams start root zone live.size live spent state :=
    fun _ => ⟨home', spent', ensured.underway.traced, ensured.ranges⟩
  refine (looks_singleArgument call label).meets (fun argument found => ?_) stopped
  refine (looks_expressionLike argument call label).meets (fun _ _ => ?_) stopped
  have arguments := of_singleArgument found
  have next := ensured.underway.gather whole ensured.spine ensured.fresh ensured.goesOn
    ensured.isCall
  rw [← List.append_nil (_ ++ _)] at next
  refine ensured.meets_climb ascends next ?_ (.refl _)
    (fun id absent => absurd absent List.not_mem_nil) ensured.ranges
  rw [arguments, List.append_nil, List.cons_append]
  exact ((branches.exprs_push branch argument).cons condition).subperm

/-- A continuation that puts expressions before the value of a branch. -/
theorem meets_discarded (branch : Branch) :
    Meets (do
      let branches := branches.pushDiscarded branch (← argumentsOf call) (← Walk.undefined)
      Expansion.processChain resolve entry steps call condition branches remaining) state
      (fun result after => ∃ home' spent' path', Arrived start live after.live root zone home' spent
        spent' head path path' (condition :: branches.exprs) result)
      fun _ after => Roams start root zone live.size live spent after := by
  have adds : Adds state.live (state.live.push (.constant .none) none []).2 := adds_push (by simp)
  have next := (ensured.underway.gather whole ensured.spine ensured.fresh ensured.goesOn
    ensured.isCall).undefined
  refine meets_bind_ok (outcome_argumentsOf_call ensured.isCall)
    (meets_bind_ok (NumberedTree.outcome_make _ _) ?_)
  refine ensured.meets_climb ascends next ?_ adds.grown (fun id new => ?_)
    (ensured.ranges.trans (adds.ranges ensured.underway.traced ensured.ranges.size))
  · rw [List.append_assoc, List.cons_append]
    exact (List.subperm_cons condition).mpr (branches.exprs_pushDiscarded branch _ _)
  · rw [List.mem_singleton.mp new]
    exact ensured.ranges.size

/-- A continuation that begins a conditional of its own. -/
theorem meets_elseIf (label : String) :
    Meets (do
      let argument ← Shape.singleArgument call label
      Shape.expressionLike argument call label
      let nested ← Expansion.processChain resolve entry steps call argument {} remaining
      let branches := branches.replaceAlternate nested.expr
      return ⟨nested.top, ← Synthesis.conditional branches condition⟩) state
      (fun result after => ∃ home' spent' path', Arrived start live after.live root zone home' spent
        spent' head path path' (condition :: branches.exprs) result)
      fun _ after => Roams start root zone live.size live spent after := by
  have stopped : ∀ _ : WalkFault, Roams start root zone live.size live spent state :=
    fun _ => ⟨home', spent', ensured.underway.traced, ensured.ranges⟩
  refine (looks_singleArgument call label).meets (fun argument found => ?_) stopped
  refine (looks_expressionLike argument call label).meets (fun _ _ => ?_) stopped
  have arguments := of_singleArgument found
  have isArgument : state.live.Argument call argument :=
    ⟨ensured.isCall, mem_having.mp (arguments ▸ List.mem_singleton_self argument)⟩
  have single : [argument].Subperm
      (condition :: branches.exprs ++ state.live.having .args call) := by
    rw [arguments]
    exact (List.sublist_append_right _ _).subperm
  have next := (ensured.underway.gather whole ensured.spine ensured.fresh ensured.goesOn
    ensured.isCall).subperm single
  refine Meets.bind ((ascends home' spent' state call argument {} _ next).imp
    (fun _ _ arrived => arrived) fun _ _ roams => ensured.ranges.roams (Nat.le_refl _) roams) ?_
  rintro nested after ⟨home'', spent'', path'', arrived⟩
  obtain ⟨id, final, outcome, arrived'⟩ :=
    arrived.exists_arrived whole ensured.underway ensured.fresh isArgument
  refine meets_bind_ok outcome (meets_pure ⟨home'', spent'', path'', ?_⟩)
  exact arrived'.back ensured.ranges (List.Subset.refl _) ensured.kept fun expr among =>
    Or.inl among

/-- **The rest of a step**, once what is inside the arguments of the next call is done. -/
theorem meets_rest (continuation : Continuation) (label : String) :
    Meets (do
      Shape.noKeywords call label
      if continuation = .elseIf then
        let argument ← Shape.singleArgument call label
        Shape.expressionLike argument call label
        let nested ← Expansion.processChain resolve entry steps call argument {} remaining
        let branches := branches.replaceAlternate nested.expr
        return ⟨nested.top, ← Synthesis.conditional branches condition⟩
      let branch ← match Branch.ofContinuation continuation with
        | .ok branch => pure branch
        | .error fault => throw (.noBranch fault)
      if continuation.takesSingle then
        let argument ← Shape.singleArgument call label
        Shape.expressionLike argument call label
        Expansion.processChain resolve entry steps call condition (branches.push branch argument)
          remaining
      else
        let branches := branches.pushDiscarded branch (← argumentsOf call) (← undefined)
        Expansion.processChain resolve entry steps call condition branches remaining) state
      (fun result after => ∃ home' spent' path', Arrived start live after.live root zone home' spent
        spent' head path path' (condition :: branches.exprs) result)
      fun _ after => Roams start root zone live.size live spent after := by
  have stopped : ∀ _ : WalkFault, Roams start root zone live.size live spent state :=
    fun _ => ⟨home', spent', ensured.underway.traced, ensured.ranges⟩
  refine (looks_noKeywords call label).meets (fun _ _ => ?_) stopped
  by_cases elseIf : continuation = .elseIf
  · rw [if_pos elseIf]
    exact ensured.meets_elseIf whole ascends label
  rw [if_neg elseIf]
  cases Branch.ofContinuation continuation with
  | error fault => exact stopped (.noBranch fault)
  | ok branch =>
    refine meets_bind_ok rfl ?_
    cases continuation.takesSingle with
    | true => exact ensured.meets_value whole ascends label branch
    | false => exact ensured.meets_discarded whole ascends branch

end Ensured

/-- **The climb from any call of a chain** leaves a table that can be traced back, however many
steps it may take. -/
theorem ascends_all (whole : start.Whole) (safe : Safe start root resolve)
    (confined : start.Confined zone head) (entry : String) (remaining : List NodeId) (steps : Nat) :
    Ascends start root zone head resolve entry remaining steps := by
  induction steps with
  | zero =>
    intro home spent state position condition branches path underway
    exact roams_refl underway.traced
  | succ steps ih =>
    intro home spent state position condition branches path underway
    have stopped : ∀ _ : WalkFault, Roams start root zone state.live.size state.live spent state :=
      fun _ => roams_refl underway.traced
    unfold Expansion.processChain
    refine meets_bind_ok (outcome_parentOf position) ?_
    refine (looks_nextMember entry _ _).meets (fun member found => ?_) stopped
    obtain ⟨rises, -⟩ := of_nextMember found
    refine (looks_continuationOf entry member).meets (fun continuation found => ?_) stopped
    obtain ⟨name, usage, label, named⟩ := of_continuationOf found
    refine meets_bind_ok (outcome_parentOf member) ?_
    refine (looks_invocation _ _ _).meets (fun call found => ?_) stopped
    obtain ⟨rises', isCall, callee, same, alone⟩ := of_invocation found
    obtain rfl := Option.some.inj same
    obtain ⟨spine, isCall', alone', label', first, second⟩ :=
      underway.next rises label rises' isCall alone
    have fresh : call ∉ path := underway.spine.not_mem whole first (.single second)
    have known : call < start.size := lt_size_of_label (by simp [isCall'])
    have inside := (confined call _ spine call List.mem_cons_self).2
    by_cases terminal : continuation.isTerminal = true
    · rw [if_pos terminal]
      refine (looks_noArguments call _).meets (fun _ found => ?_) stopped
      refine (looks_noKeywords call _).meets (fun _ _ => ?_) stopped
      have none : start.having .args call = [] := by
        rw [underway.traced.having_home known, of_noArguments found, List.map_nil]
      obtain ⟨id, state', outcome, arrived⟩ := underway.exists_arrived whole spine
        ((ends_iff isCall' alone' label' named).mpr ⟨none, terminal⟩)
      exact meets_bind_ok outcome (meets_pure ⟨_, _, _, arrived⟩)
    · rw [if_neg terminal]
      have goesOn : ¬start.Ends call := fun ends =>
        terminal ((ends_iff isCall' alone' label' named).mp ends).2
      refine Meets.bind ((upholds_ensureArguments_inside whole safe isCall' (Nat.le_refl _) remaining
        state (roams_refl underway.traced)).imp (fun _ _ both => both.1)
        fun _ _ roams => roams.mono inside) ?_
      rintro - after ⟨home', spent', traced, ranges⟩
      obtain ⟨underway', kept⟩ := underway.ensured whole spine fresh traced ranges
      have ensured : Ensured start state.live after.live root zone home' spent spent' head position
          path (condition :: branches.exprs) member call :=
        ⟨underway', spine, fresh, goesOn, (traced.label call known).trans isCall',
          ranges.mono inside (Nat.le_refl _), kept⟩
      exact ensured.meets_rest whole ih continuation _

end Climbing

section Expanding

variable {live' : LiveTree} {head condition : NodeId} {home' : NodeId → NodeId} {path' : List NodeId}
  {spent' : Set NodeId} {result : Expansion.ChainResult} {entry : String}

/-- What takes the place of the chain is a tree that can be grafted. -/
theorem Arrived.exists_grafting (whole : start.Whole)
    (arrived : Arrived start live state.live root zone home' spent spent' head [head] path'
      [condition] result)
    (replaced : state.live.replace? result.top result.expr = some live') :
    ∃ above tree, tree.tag = result.expr ∧ Grafting start state.live live' root home' spent' head
      result.top path' above (sources live state.live [head] path' [condition]) tree := by
  have traced := arrived.traced
  have unspent : ∀ id ∈ path', id ∉ spent' := fun id onPath isSpent =>
    traced.unspent_of_replace? arrived.ends replaced
      (traced.last_spent whole arrived.spine onPath isSpent)
  obtain ⟨tree, tag, graft⟩ := arrived.graft unspent
  have unplaced := arrived.unplaced
  rw [← tag] at replaced unplaced
  obtain ⟨above, grafting⟩ := LiveTree.exists_grafting whole traced arrived.spine arrived.ends
    unspent graft unplaced replaced
  exact ⟨above, tree, tag, grafting⟩

/-- **Putting the conditional expression in the place of the chain.** -/
theorem Arrived.replaced (whole : start.Whole) (known : root < start.size)
    (arrived : Arrived start live state.live root zone home' spent spent' head [head] path'
      [condition] result)
    (confined : start.Confined zone head) (isArgument : live.Argument head condition)
    (replaced : state.live.replace? result.top result.expr = some live') :
    ∃ home'' spent'', Traced start live' root home'' spent'' ∧
      Ranges start zone live.size live spent live' spent'' := by
  have traced := arrived.traced
  obtain ⟨above, tree, -, grafting⟩ := arrived.exists_grafting whole replaced
  have isArgument' := arrived.kept head List.mem_cons_self condition isArgument
  refine ⟨_, _, grafting.traced_after known, arrived.ranges.trans (grafting.ranges
    (fun id onPath => (confined _ _ arrived.spine id onPath).1) fun id member fresh => ?_)⟩
  rcases grafting.graft.origin id member with ⟨-, root⟩ | ⟨placed, -⟩
  · rcases root with given | new | ⟨call, -, -, other⟩
    · obtain rfl := List.mem_singleton.mp given
      exact absurd fresh (traced.placed_argument isArgument')
    · exact new
    · exact absurd fresh (traced.placed_argument other)
  · exact absurd fresh placed.1

/-- A walk from a table has come to the end of the chain of a reference, whose head has a single
argument. -/
def AtEnd (start : LiveTree) (root : NodeId) (zone : Set NodeId) (live : LiveTree)
    (spent : Set NodeId) (reference : NodeId) (reached : NodeId × Expansion.ChainResult)
    (state : WalkState) : Prop :=
  ∃ middle home' spent' spent'' path' condition, start.Confined zone reached.1 ∧
    (.func, reference) ∈ live.slots reached.1 ∧ middle.Argument reached.1 condition ∧
    Ranges start zone live.size live spent middle spent' ∧
    Arrived start middle state.live root zone home' spent' spent'' reached.1 [reached.1] path'
      [condition] reached.2

/-- **Coming to the end of the chain of a reference** with a safe resolver. -/
theorem meets_reach (whole : start.Whole) (safe : Safe start root resolve) (entry : String)
    {reference : NodeId} {later : List NodeId} (traced : Traced start state.live root home spent)
    (confinedAt : ∀ head, state.live.Rises reference head → start.label head = .call →
      (.func, reference) ∈ state.live.slots head → start.Confined zone head) :
    Meets (Expansion.reach resolve entry reference later) state
      (fun reached after => AtEnd start root zone state.live spent reference reached after)
      fun _ after => Roams start root zone state.live.size state.live spent after := by
  have stopped : ∀ _ : WalkFault, Roams start root zone state.live.size state.live spent state :=
    fun _ => roams_refl traced
  unfold Expansion.reach
  refine meets_bind_ok (outcome_parentOf reference) ?_
  refine (looks_invocation _ _ _).meets (fun head found => ?_) stopped
  obtain ⟨rises, isCall, callee, same, alone⟩ := of_invocation found
  obtain rfl := Option.some.inj same
  have knownHead := traced.lt_size_of_call isCall
  have isCall' := (traced.label head knownHead).symm.trans isCall
  have slot : (.func, reference) ∈ state.live.slots head :=
    mem_having.mp (alone ▸ List.mem_singleton_self reference)
  have confined := confinedAt head rises isCall' slot
  have inside := (confined head [head] (.head isCall') head List.mem_cons_self).2
  refine Meets.bind ((upholds_ensureArguments_inside whole safe isCall' (Nat.le_refl _) later state
    (roams_refl traced)).imp (fun _ _ both => both.1) fun _ _ roams => roams.mono inside) ?_
  rintro - state' ⟨home', spent', traced', narrow⟩
  have ranges := narrow.mono inside (Nat.le_refl _)
  have stopped' : ∀ _ : WalkFault, Roams start root zone state.live.size state.live spent state' :=
    fun _ => ⟨home', spent', traced', ranges⟩
  refine (looks_noKeywords head entry).meets (fun _ _ => ?_) stopped'
  refine (looks_singleArgument head entry).meets (fun condition found => ?_) stopped'
  refine (looks_expressionLike condition head entry).meets (fun _ _ => ?_) stopped'
  have isCall'' := (traced'.label head knownHead).trans isCall'
  have arguments := of_singleArgument found
  have isArgument : state'.live.Argument head condition :=
    ⟨isCall'', mem_having.mp (arguments ▸ List.mem_singleton_self condition)⟩
  have underway : Underway start state'.live root home' spent' head head [head] [condition] := by
    refine ⟨traced', .head isCall', fun ends => ?_, ?_, List.nodup_singleton _⟩
    · have some := ends.2.1
      rw [traced'.having_home knownHead, arguments] at some
      exact nomatch some
    · exact List.forall_mem_singleton.mpr (Or.inl ⟨head, List.mem_cons_self, isArgument⟩)
  have climb := ascends_all whole safe confined entry later state'.live.size home' spent' state' head
    condition {} [head] underway
  have walk : Meets (Expansion.walkChain resolve entry head condition later) state' _ _ :=
    meets_bind_ok outcome_live climb
  refine Meets.bind (walk.imp (fun _ _ arrived => arrived)
    fun _ _ roams => ranges.roams (Nat.le_refl _) roams) ?_
  rintro result state'' ⟨home'', spent'', path', arrived⟩
  exact meets_pure ⟨state'.live, home'', spent', spent'', path', condition, confined, slot,
    isArgument, ranges, arrived⟩

/-- **Expanding the chain of a reference** with a safe resolver is safe. -/
theorem safe_expandReference (whole : start.Whole) (known : root < start.size)
    (safe : Safe start root resolve) (entry : String) :
    Safe start root (Expansion.expandReference resolve entry) := by
  intro zone home spent state reference later traced confinedAt
  rw [Expansion.expandReference_eq]
  refine meets_bind_ok (outcome_isProcessed reference) ?_
  split
  · exact meets_pure (roams_refl traced)
  refine Meets.bind (meets_reach whole safe entry traced confinedAt) ?_
  rintro ⟨head, result⟩ after
    ⟨middle, home', spent', spent'', path', condition, confined, -, isArgument, ranges, arrived⟩
  have further : ∀ {live spent}, Ranges start zone middle.size middle spent' live spent →
      Ranges start zone state.live.size state.live _ live spent :=
    fun later => ranges.trans (later.mono subset_rfl ranges.size)
  cases replaced : after.live.replace? result.top result.expr with
  | none =>
    rw [Meets, outcome_bind_error (outcome_replace_none replaced)]
    exact ⟨home', spent'', arrived.traced, further arrived.ranges⟩
  | some live =>
    obtain ⟨home'', spent, traced', ranges'⟩ :=
      arrived.replaced whole known confined isArgument replaced
    exact meets_bind_ok (outcome_replace replaced) (meets_bind_ok rfl (meets_bind_ok outcome_live
      (meets_bind_ok rfl (meets_pure ⟨home'', spent, traced', further ranges'⟩))))

variable (whole : start.Whole) (known : root < start.size) (entry : String)

include whole known

/-- **Every resolver is safe.** -/
theorem safe_resolver (depth : Nat) : Safe start root (Expansion.resolver entry depth) := by
  induction depth with
  | zero => exact fun zone home spent state reference later traced _ => roams_refl traced
  | succ depth ih => exact safe_expandReference whole known ih entry

/-- **Expanding the chain of any reference**, at any depth, leaves a table that can be traced back. -/
theorem upholds_resolver_traced (depth : Nat) (reference : NodeId) (remaining : List NodeId) :
    Upholds (fun state => ∃ home spent, Traced start state.live root home spent)
      (Expansion.resolver entry depth reference remaining) fun _ => True := by
  rintro state ⟨home, spent, traced⟩
  refine (safe_resolver whole known entry depth Set.univ home spent state reference remaining traced
    fun _ _ _ _ => confined_univ).imp ?_ ?_
  · rintro - after ⟨home', spent', traced', -⟩
    exact ⟨⟨home', spent', traced'⟩, trivial⟩
  · rintro - after ⟨home', spent', traced', -⟩
    exact ⟨home', spent', traced'⟩

end Expanding

end LiveTree

end IfChains
