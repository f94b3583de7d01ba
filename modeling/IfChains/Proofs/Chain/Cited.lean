/-
**The places that malformed chains are reported at.**

A walk that stops at a malformed chain cites a node. It is a call or a member of the chain, and
these stand where they stood in the tree that was read, whatever has been expanded before. Only
where a name or a member is not called, its recorded parent is cited, which may be of any kind and
need not have a position.

* `Anchored`: a table can be traced back, and the first nodes have kept their positions;
* `Cited`: what a fault cites; `Cites`: a walk stops with such faults only;
* `Cites.bind`, `Cites.check`, `Cites.called`: such walks one after the other;
* `cites_processChain`, `cites_resolver`: the climb along a chain, and the expansion of one;
* `Tree.dispatch_cites`: **what is cited when the expansion of a list stops**;
* `Tree.label_ne_empty_of_called`: when a report ends with a place.
-/

import IfChains.Proofs.Chain.Terminating

namespace IfChains

open IfChains.Walk

namespace LiveTree

/-- A node that a chain consists of: a call or a member. -/
def IsLink (live : LiveTree) (id : NodeId) : Prop :=
  live.label id = .call ∨ ∃ name usage, live.label id = .member name usage

/-- The table of a state can be traced back to an earlier one, and the nodes of that one have kept
their positions. -/
structure Anchored (start : LiveTree) (root : NodeId) (state : WalkState) : Prop where
  traceable : Traceable start root state
  positions : start.size ≤ state.live.size ∧
    ∀ id < start.size, state.live.position? id = start.position? id

/-- A fault is none of the shape of a chain. -/
def Shapeless (fault : WalkFault) : Prop :=
  ∀ shape location, fault ≠ .shape shape location

instance : Misreads Shapeless where
  misread _ _ _ _ := nofun
  noList _ _ _ := nofun

/-- What a fault cites: a link of a chain, where it stood at first, or the recorded parent of a node
that is not called. Faults of other kinds cite nothing. -/
inductive Cited (start : LiveTree) (state : WalkState) : WalkFault → Prop
  | link (fault : ShapeFault) {id : NodeId} (isLink : start.IsLink id) :
      Cited start state (.shape fault (start.location id))
  | parent (label : String) (id : NodeId) :
      Cited start state
        (.shape (.notInvoked label) (state.live.location ((state.live.parent? id).getD id)))
  | other {fault : WalkFault} (shapeless : Shapeless fault) : Cited start state fault

variable {α β : Type} {start : LiveTree} {root id call member : NodeId} {state : WalkState}
  {label entry : String}

section States

theorem IsLink.lt_size (isLink : start.IsLink id) : id < start.size := by
  refine lt_size_of_label ?_
  rcases isLink with isCall | ⟨name, usage, isMember⟩
  · simp [isCall]
  · simp [isMember]

/-- A link stands where it stood at first. -/
theorem Anchored.location (anchored : Anchored start root state) (isLink : start.IsLink id) :
    state.live.location id = start.location id :=
  congrArg Location.ofPosition (anchored.positions.2 id isLink.lt_size)

/-- **What is a link now** was a link at first. -/
theorem Anchored.isLink (anchored : Anchored start root state) (isLink : state.live.IsLink id) :
    start.IsLink id := by
  obtain ⟨home, spent, traced⟩ := anchored.traceable
  rcases isLink with isCall | ⟨name, usage, isMember⟩
  · rw [traced.label id (traced.lt_size_of_call isCall)] at isCall
    exact Or.inl isCall
  · rw [traced.label id (traced.lt_size_of_member isMember)] at isMember
    exact Or.inr ⟨name, usage, isMember⟩

/-- A walk that leaves a table that can be traced back, and keeps positions. -/
theorem upholds_anchored {walk : Walk α}
    (traceable : Upholds (Traceable start root) walk fun _ => True)
    (positions : Upholds (fun state => start.size ≤ state.live.size ∧
      ∀ id < start.size, state.live.position? id = start.position? id) walk fun _ => True) :
    Upholds (Anchored start root) walk fun _ => True := by
  intro state anchored
  have traced := traceable state anchored.traceable
  have kept := positions state anchored.positions
  rw [Meets] at traced kept ⊢
  split <;> rename_i outcome <;> rw [outcome] at traced kept
  · exact ⟨⟨traced.1, kept.1⟩, trivial⟩
  · exact ⟨traced, kept⟩

theorem upholds_undefined_anchored :
    Upholds (Anchored start root) Walk.undefined fun _ => True :=
  upholds_anchored upholds_undefined
    ((lasting_positions ⟨start, [], []⟩).upholds_undefined.imp fun _ _ => trivial)

end States

/-- A walk stops with faults only that cite what they should. -/
def Cites (start : LiveTree) (root : NodeId) (walk : Walk α) : Prop :=
  ∀ state fault after, Anchored start root state →
    walk.outcome state = (.error fault, after) → Cited start after fault

section Rules

variable {walk : Walk α} {next : α → Walk β} {found : α → Prop}

/-- A walk that does not stop at a malformed chain. -/
theorem Cites.of_stops (stops : Stops Shapeless walk) : Cites start root walk :=
  fun _ _ _ _ stopped => .other (stops _ _ (congrArg Prod.fst stopped))

theorem cites_pure (value : α) : Cites start root (pure value) :=
  .of_stops (stops_pure value)

/-- **One walk after the other.** -/
theorem Cites.bind (first : Cites start root walk)
    (keeps : Upholds (Anchored start root) walk found)
    (rest : ∀ value, found value → Cites start root (next value)) :
    Cites start root (walk >>= next) := by
  intro state fault after anchored stopped
  have met := keeps state anchored
  rw [outcome_bind] at stopped
  rw [Meets] at met
  split at stopped <;> rename_i outcome <;> rw [outcome] at met
  · exact rest _ met.2 _ fault after met.1 stopped
  · cases stopped
    exact first state _ _ anchored outcome

/-- A walk, and what does not stop at a malformed chain after it. -/
theorem Cites.last (first : Cites start root walk)
    (rest : ∀ value, Stops Shapeless (next value)) :
    Cites start root (walk >>= next) := by
  intro state fault after anchored stopped
  rw [outcome_bind] at stopped
  split at stopped <;> rename_i outcome
  · exact .other (rest _ _ _ (congrArg Prod.fst stopped))
  · cases stopped
    exact first state _ _ anchored outcome

/-- **A walk that stops at a link.** -/
theorem cites_failAt (isLink : start.IsLink id) (fault : ShapeFault) :
    Cites start root (failAt (some id) fault : Walk α) := by
  intro state fault' after anchored stopped
  obtain ⟨same, -⟩ := Prod.mk.inj stopped
  have cited : Cited start after (.shape fault (start.location id)) := .link fault isLink
  rw [← anchored.location isLink] at cited
  exact Except.error.inj same ▸ cited

/-- A step that looks, what it has found, and what follows. -/
theorem Cites.check (first : Cites start root walk) (looks : Looks walk)
    (finds : ∀ {state value after}, Anchored start root state →
      walk.outcome state = (.ok value, after) → found value)
    (rest : ∀ value, found value → Cites start root (next value)) :
    Cites start root (walk >>= next) := by
  refine first.bind (fun state anchored => ?_) rest
  have same := looks state
  rw [Meets]
  split <;> rename_i outcome <;> rw [outcome] at same <;> subst same
  · exact ⟨anchored, finds anchored outcome⟩
  · exact anchored

/-- A step that looks, and what follows. -/
theorem Cites.look (first : Cites start root walk) (looks : Looks walk)
    (rest : ∀ value, Cites start root (next value)) : Cites start root (walk >>= next) :=
  first.bind looks.upholds fun value _ => rest value

/-- A step that looks and does not stop at a malformed chain, and what follows. -/
theorem cites_look (stops : Stops Shapeless walk) (looks : Looks walk)
    (rest : ∀ value, Cites start root (next value)) : Cites start root (walk >>= next) :=
  (Cites.of_stops stops).look looks rest

end Rules

section Checks

theorem cites_noKeywords (isLink : start.IsLink call) (label : String) :
    Cites start root (Shape.noKeywords call label) := by
  refine cites_look (stops_nodesOf .keywords call) (looks_nodesOf .keywords call)
    fun keywords => ?_
  split
  · exact cites_failAt isLink _
  · exact cites_pure _

theorem cites_noArguments (isLink : start.IsLink call) (label : String) :
    Cites start root (Shape.noArguments call label) := by
  refine cites_look (stops_nodesOf .args call) (looks_nodesOf .args call) fun arguments => ?_
  split
  · exact cites_failAt isLink _
  · exact cites_pure _

theorem cites_singleArgument (isLink : start.IsLink call) (label : String) :
    Cites start root (Shape.singleArgument call label) := by
  refine cites_look (stops_nodesOf .args call) (looks_nodesOf .args call) fun arguments => ?_
  split
  · exact cites_pure _
  · exact cites_failAt isLink _

theorem cites_expressionLike (isLink : start.IsLink call) (argument : NodeId) (label : String) :
    Cites start root (Shape.expressionLike (some argument) call label) := by
  refine cites_look (stops_kindOf argument) (looks_kindOf argument) fun kind => ?_
  beta_reduce
  split
  · exact cites_failAt isLink _
  · exact cites_pure _

theorem cites_nextMember (isLink : start.IsLink id) (entry : String) (parent : Option NodeId) :
    Cites start root (Shape.nextMember entry parent (some id)) := by
  unfold Shape.nextMember
  split
  · refine cites_look (stops_kindOf _) (looks_kindOf _) fun kind => ?_
    split
    · exact cites_pure _
    · exact cites_failAt isLink _
  · exact cites_failAt isLink _

theorem cites_continuationOf (isLink : start.IsLink member) (entry : String) :
    Cites start root (Shape.continuationOf entry member) := by
  refine cites_look (stops_memberOf member) (looks_memberOf member) fun name => ?_
  split
  · exact cites_pure _
  · exact cites_failAt isLink _

/-- Where a node is not called, its recorded parent is cited. -/
theorem cited_of_invocation {fault : WalkFault} {after : WalkState}
    (stopped : (Shape.invocation (state.live.parent? id) (some id) label).outcome state =
      (.error fault, after)) : Cited start after fault := by
  have here : ∀ parent, state.live.parent? id = parent →
      Cited start state (.shape (.notInvoked label) (state.live.location (parent.getD id))) :=
    fun parent above => above ▸ .parent label id
  cases above : state.live.parent? id with
  | none =>
    rw [above] at stopped
    obtain ⟨same, rfl⟩ := Prod.mk.inj stopped
    exact Except.error.inj same ▸ here none above
  | some parent =>
    have kind : (kindOf parent).outcome state =
        (.ok (.ofLabel (state.live.label parent)), state) := rfl
    rw [above, Shape.invocation] at stopped
    dsimp only at stopped
    rw [outcome_bind_ok kind] at stopped
    split at stopped
    · have stops : Stops Shapeless (calleeOf parent) := stops_calleeOf parent
      have same := looks_calleeOf parent state
      rw [outcome_bind] at stopped
      split at stopped <;> rename_i outcome <;> rw [outcome] at same
      · subst same
        split at stopped
        · cases stopped
        · obtain ⟨same, rfl⟩ := Prod.mk.inj stopped
          exact Except.error.inj same ▸ here (some parent) above
      · cases stopped
        exact .other (stops _ _ (congrArg Prod.fst outcome))
    · obtain ⟨same, rfl⟩ := Prod.mk.inj stopped
      exact Except.error.inj same ▸ here (some parent) above

/-- **A node is called**, or its recorded parent is cited. -/
theorem Cites.called {next : NodeId → Walk β}
    (rest : ∀ call, start.IsLink call → Cites start root (next call)) :
    Cites start root
      (parentOf id >>= fun parent => Shape.invocation parent (some id) label >>= next) := by
  intro state fault after anchored stopped
  rw [outcome_bind_ok (outcome_parentOf id), outcome_bind] at stopped
  have same := looks_invocation (state.live.parent? id) (some id) label state
  split at stopped <;> rename_i outcome <;> rw [outcome] at same
  · obtain ⟨-, isCall, -⟩ := of_invocation outcome
    subst same
    exact rest _ (anchored.isLink (Or.inl isCall)) _ fault after anchored stopped
  · cases stopped
    exact cited_of_invocation outcome

end Checks

section Steps

variable {resolve : Expansion.Resolver}
  (keeps : ∀ reference later,
    Upholds (Anchored start root) (resolve reference later) fun _ => True)
  (cites : ∀ reference later, Cites start root (resolve reference later))

include keeps cites

/-- The expansion of the chains inside an argument. -/
theorem cites_processArgument (call : NodeId) (index : Nat) (remaining : List NodeId) :
    Cites start root (Expansion.processArgument resolve call index remaining) := by
  induction remaining with
  | nil => exact cites_pure ()
  | cons reference later ih =>
    unfold Expansion.processArgument
    refine cites_look (stops_isProcessed reference) (looks_isProcessed reference)
      fun known => ?_
    split
    · refine cites_look (stops_nodesOf .args call) (looks_nodesOf .args call)
        fun arguments => ?_
      split
      · refine cites_look stops_live looks_live fun live => ?_
        split
        · exact (cites reference later).bind (keeps reference later) fun _ _ => ih
        · exact ih
      · exact .of_stops (stops_throw_bind (by simp [Shapeless]))
    · exact ih

/-- **The expansion of the chains inside the arguments of a call.** -/
theorem cites_ensureArguments (call : NodeId) (remaining : List NodeId) :
    Cites start root (Expansion.ensureArguments resolve call remaining) := by
  refine cites_look (stops_nodesOf .args call) (looks_nodesOf .args call) fun arguments => ?_
  generalize List.range arguments.length = indices
  induction indices with
  | nil => exact cites_pure ()
  | cons index rest ih =>
    exact (cites_processArgument keeps cites call index remaining).bind
      (upholds_processArgument keeps call index remaining) fun _ _ => ih

/-- **The climb along a chain** goes from link to link. -/
theorem cites_processChain (remaining : List NodeId) (steps : Nat) {position : NodeId}
    (isLink : start.IsLink position) (condition : NodeId) (branches : BranchSet NodeId) :
    Cites start root
      (Expansion.processChain resolve entry steps position condition branches remaining) := by
  induction steps generalizing position condition branches with
  | zero => exact .of_stops (stops_throw (by simp [Shapeless]))
  | succ steps ih =>
    unfold Expansion.processChain
    refine cites_look (stops_parentOf position) (looks_parentOf position) fun parent => ?_
    refine (cites_nextMember isLink entry parent).check (looks_nextMember entry parent position)
      (fun anchored found => anchored.isLink (Or.inr (of_nextMember found).2))
      fun member isMember => ?_
    refine (cites_continuationOf isMember entry).look (looks_continuationOf entry member)
      fun continuation => ?_
    refine Cites.called fun call isCall => ?_
    split
    · refine (cites_noArguments isCall _).look (looks_noArguments call _) fun _ => ?_
      refine (cites_noKeywords isCall _).look (looks_noKeywords call _) fun _ => ?_
      exact (Cites.of_stops (stops_conditional branches condition)).last fun _ => stops_pure _
    refine (cites_ensureArguments keeps cites call remaining).bind
      (upholds_ensureArguments keeps call remaining) fun _ _ => ?_
    refine (cites_noKeywords isCall _).look (looks_noKeywords call _) fun _ => ?_
    split
    · refine (cites_singleArgument isCall _).look (looks_singleArgument call _) fun argument => ?_
      refine (cites_expressionLike isCall argument _).look (looks_expressionLike argument call _)
        fun _ => ?_
      refine (ih isCall argument {}).last fun nested => ?_
      exact (stops_conditional _ condition).bind fun _ => stops_pure _
    cases Branch.ofContinuation continuation with
    | error fault => split <;> exact .of_stops (stops_throw_bind (by simp [Shapeless]))
    | ok branch =>
      split
      · refine (cites_pure branch).look (looks_pure branch) fun branch => ?_
        refine (cites_singleArgument isCall _).look (looks_singleArgument call _)
          fun argument => ?_
        refine (cites_expressionLike isCall argument _).look
          (looks_expressionLike argument call _) fun _ => ?_
        exact ih isCall condition _
      · refine (cites_pure branch).look (looks_pure branch) fun branch => ?_
        refine cites_look (stops_nodesOf .args call) (looks_nodesOf .args call)
          fun arguments => ?_
        exact (Cites.of_stops (stops_make _ _)).bind upholds_undefined_anchored
          fun _ _ => ih isCall condition _

/-- **The expansion of a chain.** -/
theorem cites_expandReference (reference : NodeId) (remaining : List NodeId) :
    Cites start root (Expansion.expandReference resolve entry reference remaining) := by
  unfold Expansion.expandReference
  refine cites_look (stops_isProcessed reference) (looks_isProcessed reference) fun known => ?_
  split
  · exact cites_pure _
  refine Cites.called fun call isCall => ?_
  refine (cites_ensureArguments keeps cites call remaining).bind
    (upholds_ensureArguments keeps call remaining) fun _ _ => ?_
  refine (cites_noKeywords isCall _).look (looks_noKeywords call _) fun _ => ?_
  refine (cites_singleArgument isCall _).look (looks_singleArgument call _) fun condition => ?_
  refine (cites_expressionLike isCall condition _).look (looks_expressionLike condition call _)
    fun _ => ?_
  refine Cites.last ?_ fun result => ?_
  · refine cites_look stops_live looks_live fun live => ?_
    exact cites_processChain keeps cites remaining live.size isCall condition {}
  · exact (stops_replace (by simp [Shapeless]) _ _).bind fun _ _ _ => nofun

end Steps

section Expanding

variable (whole : start.Whole) (known : root < start.size) (entry : String)

include whole known

theorem upholds_resolver_anchored (depth : Nat) (reference : NodeId) (remaining : List NodeId) :
    Upholds (Anchored start root) (Expansion.resolver entry depth reference remaining)
      fun _ => True :=
  upholds_anchored (upholds_resolver_traced whole known entry depth reference remaining)
    ((lasting_positions ⟨start, [], []⟩).upholds_resolver entry depth reference remaining)

/-- **The expansion of a chain**, at any depth. -/
theorem cites_resolver (depth : Nat) (reference : NodeId) (remaining : List NodeId) :
    Cites start root (Expansion.resolver entry depth reference remaining) := by
  induction depth generalizing reference remaining with
  | zero => exact .of_stops (stops_throw (by simp [Shapeless]))
  | succ depth ih =>
    exact cites_expandReference (upholds_resolver_anchored whole known entry depth) ih reference
      remaining

/-- **The expansion of the chains of a list.** -/
theorem cites_processAll (references : List NodeId) :
    Cites start root (Expansion.processAll entry references) := by
  induction references with
  | nil => exact cites_pure ()
  | cons reference later ih =>
    unfold Expansion.processAll
    refine cites_look (stops_isProcessed reference) (looks_isProcessed reference)
      fun done => ?_
    split
    · exact (cites_resolver whole known entry _ reference later).bind
        (upholds_resolver_anchored whole known entry _ reference later) fun _ _ => ih
    · exact ih

/-- **The expansion of the chains of a list**, with the count of those expanded. -/
theorem cites_dispatch (references : List NodeId) :
    Cites start root (Expansion.dispatch entry references) := by
  intro state fault after anchored stopped
  have cites : Cites start root (Expansion.processAll entry references >>= fun _ => do
      let count := (← get).processed.length
      remark (.total count entry)
      return count) :=
    (cites_processAll whole known entry references).last fun _ _ _ => nofun
  exact cites { state with processed := [] } fault after ⟨anchored.traceable, anchored.positions⟩
    stopped

end Expanding

end LiveTree

namespace Tree

open LiveTree

/-- **Whatever a tree was asked before**, its table can be traced back and has kept positions. -/
theorem anchored_asked (tree : SourceTree) (requests : List Request) (processed : List NodeId)
    (remarks : List Remark) :
    Anchored (ofTree tree).2 (ofTree tree).1 ⟨tree.asked requests, processed, remarks⟩ := by
  have lasting := lasting_positions ⟨(ofTree tree).2, [], []⟩
  refine ⟨exists_traced tree requests, ?_⟩
  refine List.foldlRecOn (motive := fun live => (ofTree tree).2.size ≤ live.size ∧
      ∀ id < (ofTree tree).2.size, live.position? id = (ofTree tree).2.position? id)
    requests Request.leaves ⟨Nat.le_refl _, fun _ _ => rfl⟩ fun live kept request _ => ?_
  cases request with
  | expand entry processed reference remaining =>
    exact (lasting.upholds_resolver entry _ reference remaining).after kept
  | dispatch entry references => exact (lasting.upholds_dispatch entry references).after kept

/-- **What is cited when the expansion of a list stops** at a malformed chain: a call or a member,
where it stood in the tree that was read, or the recorded parent of a node that is not called. -/
theorem dispatch_cites (tree : SourceTree) (requests : List Request) (entry : String)
    (references processed : List NodeId) (remarks : List Remark) {fault : ShapeFault}
    {location : Location} {after : WalkState}
    (stopped : (Expansion.dispatch entry references).outcome
      ⟨tree.asked requests, processed, remarks⟩ = (.error (.shape fault location), after)) :
    (∃ id, (ofTree tree).2.IsLink id ∧ location = (ofTree tree).2.location id) ∨
      ∃ label id, fault = .notInvoked label ∧
        location = after.live.location ((after.live.parent? id).getD id) := by
  obtain ⟨whole, known, -⟩ := whole_ofTree tree
  have cited := cites_dispatch whole known entry references _ _ _
    (anchored_asked tree requests processed remarks) stopped
  cases cited with
  | link fault isLink => exact Or.inl ⟨_, isLink, rfl⟩
  | parent label id => exact Or.inr ⟨label, id, rfl, rfl⟩
  | other shapeless => exact absurd rfl (shapeless fault location)

/-- **A report of a malformed chain ends with its place**, if the calls and the members of the tree
have one, unless it is that a node is not called. -/
theorem label_ne_empty_of_called (tree : SourceTree) (requests : List Request) (entry : String)
    (references processed : List NodeId) (remarks : List Remark) {fault : ShapeFault}
    {location : Location} {after : WalkState}
    (placed : ∀ id, (ofTree tree).2.IsLink id → ((ofTree tree).2.location id).line ≠ 0)
    (called : ∀ label, fault ≠ .notInvoked label)
    (stopped : (Expansion.dispatch entry references).outcome
      ⟨tree.asked requests, processed, remarks⟩ = (.error (.shape fault location), after)) :
    location.label ≠ "" := by
  rw [ne_eq, Location.label_eq_empty_iff]
  rcases dispatch_cites tree requests entry references processed remarks stopped with
    ⟨id, isLink, rfl⟩ | ⟨label, id, notCalled, -⟩
  · exact placed id isLink
  · exact absurd notCalled (called label)

/-- A name that a comprehension goes through is not called, and a comprehension has no position. -/
example :
    let tree : SourceTree := .node none (.comprehension false)
      [(.target, .node (some ⟨2, 7⟩) (.name "x" .store) []),
        (.iter, .node (some ⟨2, 12⟩) (.name "If" .load) [])]
    ((Expansion.dispatch "If" [1]).outcome ⟨(ofTree tree).2, [], []⟩).1 =
      .error (.shape (.notInvoked "If") {}) := by
  decide +kernel

end Tree

end IfChains
