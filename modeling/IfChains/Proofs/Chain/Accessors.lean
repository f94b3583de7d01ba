/-
**Calls and members are asked only for what they are.**

A walk asks a call what it calls and for its arguments, and a member for its name. It does so only
where it has found a call or a member before, and a node stays what it is whatever is expanded in
between. To see this, the walk is given other ways to ask. Where these agree on calls and on
members, the walk comes to the same, though they may do anything, and fail in any way, on other
nodes.

* `Accessors`: ways to look into nodes, and the walks that look through them;
* `lasting_call`: a call stays a call;
* `Accessors.same_processChain`, `Accessors.same_dispatch`: the walks come to the same;
* `Accessors.agrees_strict`: such are the ways to ask that stop at every other node.
-/

import IfChains.Proofs.Chain.Expanded
import IfChains.Proofs.Chain.Lasting
import IfChains.Proofs.Chain.Tracing

namespace IfChains

open IfChains.Walk

/-- Ways to look into the nodes of a chain. -/
structure Accessors where
  calleeOf : NodeId → Walk NodeId
  argumentsOf : NodeId → Walk (List NodeId)
  keywordsOf : NodeId → Walk (List NodeId)
  memberOf : NodeId → Walk String

namespace Accessors

/-- Ways to look into nodes that find in calls what a walk finds in calls, and in members what it
finds in members. -/
structure Agrees (accessors : Accessors) : Prop where
  callee : ∀ (state : WalkState) (call : NodeId), state.live.label call = .call →
    (accessors.calleeOf call).outcome state = (Walk.calleeOf call).outcome state
  arguments : ∀ (state : WalkState) (call : NodeId), state.live.label call = .call →
    (accessors.argumentsOf call).outcome state = (Walk.argumentsOf call).outcome state
  keywords : ∀ (state : WalkState) (call : NodeId), state.live.label call = .call →
    (accessors.keywordsOf call).outcome state = (Walk.keywordsOf call).outcome state
  member : ∀ (state : WalkState) (member : NodeId),
    (∃ name usage, state.live.label member = .member name usage) →
    (accessors.memberOf member).outcome state = (Walk.memberOf member).outcome state

variable (accessors : Accessors)

section Checks

/-- A node is a call of another one. -/
def invocation (node current : Option NodeId) (label : String) : Walk NodeId := do
  match node with
  | none => failAt current (.notInvoked label)
  | some call =>
    if (← kindOf call) = .call then
      if some (← accessors.calleeOf call) = current then return call
    failAt call (.notInvoked label)

/-- A call has no keyword arguments. -/
def noKeywords (call : NodeId) (label : String) : Walk Unit := do
  if !(← accessors.keywordsOf call).isEmpty then failAt call (.keywordArguments label)

/-- The only positional argument of a call. -/
def singleArgument (call : NodeId) (label : String) : Walk NodeId := do
  match ← accessors.argumentsOf call with
  | [argument] => return argument
  | _ => failAt call (.notOneArgument label)

/-- A call has no positional arguments. -/
def noArguments (call : NodeId) (label : String) : Walk Unit := do
  if !(← accessors.argumentsOf call).isEmpty then failAt call (.arguments label)

/-- The continuation that a member names. -/
def continuationOf (entry : String) (member : NodeId) : Walk Continuation := do
  let name ← accessors.memberOf member
  match Continuation.ofKeyword? name with
  | some continuation => return continuation
  | none => failAt member (.unknownMember entry name)

end Checks

section Steps

variable (resolve : Expansion.Resolver) (entry : String)

/-- Expands the chains of references inside an argument of a call. -/
def processArgument (call : NodeId) (index : Nat) : List NodeId → Walk Unit
  | [] => return
  | reference :: later => do
    if !(← isProcessed reference) then
      match (← accessors.argumentsOf call)[index]? with
      | some argument =>
        if (← live).contains argument reference then
          let _ ← resolve reference later
      | none => throw .noItem
    processArgument call index later

/-- Expands the chains of references inside the arguments of a call. -/
def ensureArguments (call : NodeId) (remaining : List NodeId) : Walk Unit := do
  (List.range (← accessors.argumentsOf call).length).forM fun index =>
    accessors.processArgument resolve call index remaining

/-- Climbs a chain from a call to its end and makes the conditional expression. -/
def processChain : (steps : Nat) → (position condition : NodeId) → BranchSet NodeId →
    (remaining : List NodeId) → Walk Expansion.ChainResult
  | 0, _, _, _, _ => throw .endless
  | steps + 1, position, condition, branches, remaining => do
    let member ← Shape.nextMember entry (← parentOf position) position
    let continuation ← accessors.continuationOf entry member
    let label := "member " ++ continuation.keyword
    let call ← accessors.invocation (← parentOf member) member label
    if continuation.isTerminal then
      accessors.noArguments call label
      accessors.noKeywords call label
      return ⟨call, ← Synthesis.conditional branches condition⟩
    accessors.ensureArguments resolve call remaining
    accessors.noKeywords call label
    if continuation = .elseIf then
      let argument ← accessors.singleArgument call label
      Shape.expressionLike argument call label
      let nested ← processChain steps call argument {} remaining
      let branches := branches.replaceAlternate nested.expr
      return ⟨nested.top, ← Synthesis.conditional branches condition⟩
    let branch ← match Branch.ofContinuation continuation with
      | .ok branch => pure branch
      | .error fault => throw (.noBranch fault)
    if continuation.takesSingle then
      let argument ← accessors.singleArgument call label
      Shape.expressionLike argument call label
      processChain steps call condition (branches.push branch argument) remaining
    else
      let branches := branches.pushDiscarded branch (← accessors.argumentsOf call) (← undefined)
      processChain steps call condition branches remaining

/-- Walks a chain from a call; the climb is bounded by the size of the tree. -/
def walkChain (position condition : NodeId) (remaining : List NodeId) :
    Walk Expansion.ChainResult := do
  accessors.processChain resolve entry (← live).size position condition {} remaining

/-- Expands the chain of a reference, unless that is done; tells whether it was not. -/
def expandReference (reference : NodeId) (remaining : List NodeId) : Walk Bool := do
  if ← isProcessed reference then return false
  let call ← accessors.invocation (← parentOf reference) reference entry
  accessors.ensureArguments resolve call remaining
  accessors.noKeywords call entry
  let condition ← accessors.singleArgument call entry
  Shape.expressionLike condition call entry
  let result ← accessors.walkChain resolve entry call condition remaining
  replace result.top result.expr
  markProcessed reference
  remark (.expanded entry ((← live).location call))
  return true

end Steps

section Lists

/-- Expands the chain of a reference, with a bound on the depth of nested expansions. -/
def resolver (entry : String) : (depth : Nat) → Expansion.Resolver
  | 0 => fun _ _ => throw .endless
  | depth + 1 => accessors.expandReference (resolver entry depth) entry

/-- Expands the chains of references, given in the order in which they are to be looked at. -/
def processAll (entry : String) : List NodeId → Walk Unit
  | [] => return
  | reference :: later => do
    if !(← isProcessed reference) then
      let _ ← accessors.resolver entry (later.length + 1) reference later
    processAll entry later

/-- Expands the chains of references and counts the expanded ones. -/
def dispatch (entry : String) (references : List NodeId) : Walk Nat := do
  modify fun state => { state with processed := [] }
  accessors.processAll entry references
  let count := (← get).processed.length
  remark (.total count entry)
  return count

end Lists

end Accessors

namespace Walk

variable {α β : Type} {holds : WalkState → Prop}

/-- Two walks come to the same from every state with some property. -/
def SameFrom (holds : WalkState → Prop) (walk walk' : Walk α) : Prop :=
  ∀ state, holds state → walk.outcome state = walk'.outcome state

section Rules

variable {walk walk' : Walk α} {next next' : α → Walk β}

theorem SameFrom.refl (holds : WalkState → Prop) (walk : Walk α) : SameFrom holds walk walk :=
  fun _ _ => rfl

/-- **First steps that come to the same**, and what follows where they have returned. -/
theorem SameFrom.bind (left : α → WalkState → Prop) (first : SameFrom holds walk walk')
    (returned : ∀ state value after, holds state → walk'.outcome state = (.ok value, after) →
      left value after)
    (rest : ∀ value, SameFrom (left value) (next value) (next' value)) :
    SameFrom holds (walk >>= next) (walk' >>= next') := by
  intro state held
  rw [outcome_bind, outcome_bind, first state held]
  split <;> rename_i outcome
  · exact rest _ _ (returned state _ _ held outcome)
  · rfl

/-- First steps that come to the same, and what follows whatever they leave. -/
theorem SameFrom.followed (first : SameFrom holds walk walk')
    (rest : ∀ value, SameFrom (fun _ => True) (next value) (next' value)) :
    SameFrom holds (walk >>= next) (walk' >>= next') :=
  first.bind (fun _ _ => True) (fun _ _ _ _ _ => trivial) rest

/-- First steps that come to the same and keep the property. -/
theorem SameFrom.kept {found : α → Prop} (first : SameFrom holds walk walk')
    (keeps : Upholds holds walk' found)
    (rest : ∀ value, SameFrom holds (next value) (next' value)) :
    SameFrom holds (walk >>= next) (walk' >>= next') := by
  refine first.bind (fun _ => holds) (fun state value after held outcome => ?_) rest
  have met := keeps state held
  rw [Meets, outcome] at met
  exact met.1

/-- A first step that only looks, and what it has found. -/
theorem SameFrom.check (left : α → WalkState → Prop) (first : SameFrom holds walk walk')
    (looks : Looks walk')
    (found : ∀ state value after, walk'.outcome state = (.ok value, after) → left value state)
    (rest : ∀ value, SameFrom (left value) (next value) (next' value)) :
    SameFrom holds (walk >>= next) (walk' >>= next') := by
  refine first.bind left (fun state value after _ outcome => ?_) rest
  have same := looks state
  rw [outcome] at same
  obtain rfl : after = state := same
  exact found after value after outcome

/-- The same first step, which only looks. -/
theorem SameFrom.look (looks : Looks walk)
    (rest : ∀ value, SameFrom holds (next value) (next' value)) :
    SameFrom holds (walk >>= next) (walk >>= next') :=
  (SameFrom.refl holds walk).kept looks.upholds rest

/-- What would follow a walk that stops does not matter. -/
theorem same_throw_bind (fault : WalkFault) :
    SameFrom holds ((throw fault : Walk α) >>= next) ((throw fault : Walk α) >>= next') :=
  fun _ _ => rfl

theorem SameFrom.mono {weaker : WalkState → Prop} (same : SameFrom weaker walk walk')
    (weakens : ∀ state, holds state → weaker state) : SameFrom holds walk walk' :=
  fun state held => same state (weakens state held)

end Rules

/-- A node is a call. -/
def IsCall (call : NodeId) (state : WalkState) : Prop :=
  state.live.label call = .call

/-- A node is a member. -/
def IsMember (member : NodeId) (state : WalkState) : Prop :=
  ∃ name usage, state.live.label member = .member name usage

/-- **A call stays a call**, whatever is made and replaced. -/
theorem lasting_call (call : NodeId) : Lasting (IsCall call) fun _ => True where
  makes {_ label slots} _ _ isCall := by
    have known := LiveTree.lt_size_of_label (by rw [isCall]; exact Label.noConfusion)
    exact ⟨((LiveTree.grown_push label none slots).label known).trans isCall, trivial⟩
  replaces isCall _ replaced :=
    ((LiveTree.exists_slots_of_replace? replaced).2.1 call).trans isCall
  notes _ _ isCall := isCall

end Walk

namespace Accessors

variable {accessors : Accessors} (agrees : accessors.Agrees)

include agrees

section Checks

variable (call member : NodeId) (entry label : String)

theorem same_invocation (node current : Option NodeId) :
    SameFrom (fun _ => True) (accessors.invocation node current label)
      (Shape.invocation node current label) := by
  cases node with
  | none => exact .refl _ _
  | some call =>
    unfold invocation Shape.invocation
    refine (SameFrom.refl _ (kindOf call)).check
      (fun kind state => kind = .ofLabel (state.live.label call)) (looks_kindOf call)
      (fun state kind after found => of_kindOf found) fun kind => ?_
    by_cases isCall : kind = .call
    · rw [if_pos isCall, if_pos isCall]
      refine SameFrom.kept (fun state found => agrees.callee state call ?_)
        (looks_calleeOf call).upholds fun callee => .refl _ _
      exact NodeKind.ofLabel_eq_call.mp (found.symm.trans isCall)
    · rw [if_neg isCall, if_neg isCall]
      exact .refl _ _

theorem same_noKeywords :
    SameFrom (IsCall call) (accessors.noKeywords call label) (Shape.noKeywords call label) :=
  SameFrom.kept (fun state => agrees.keywords state call) (looks_nodesOf .keywords call).upholds
    fun _ => .refl _ _

theorem same_singleArgument :
    SameFrom (IsCall call) (accessors.singleArgument call label)
      (Shape.singleArgument call label) :=
  SameFrom.kept (fun state => agrees.arguments state call) (looks_nodesOf .args call).upholds
    fun _ => .refl _ _

theorem same_noArguments :
    SameFrom (IsCall call) (accessors.noArguments call label) (Shape.noArguments call label) :=
  SameFrom.kept (fun state => agrees.arguments state call) (looks_nodesOf .args call).upholds
    fun _ => .refl _ _

theorem same_continuationOf :
    SameFrom (IsMember member) (accessors.continuationOf entry member)
      (Shape.continuationOf entry member) :=
  SameFrom.kept (fun state => agrees.member state member) (looks_memberOf member).upholds
    fun _ => .refl _ _

end Checks

section Steps

variable {resolve resolve' : Expansion.Resolver}
  (same : ∀ reference later,
    SameFrom (fun _ => True) (resolve reference later) (resolve' reference later))
  (keeps : ∀ call reference later,
    Upholds (IsCall call) (resolve' reference later) fun _ => True)
  (entry : String)

include same keeps

theorem same_processArgument (call : NodeId) (index : Nat) (remaining : List NodeId) :
    SameFrom (IsCall call) (accessors.processArgument resolve call index remaining)
      (Expansion.processArgument resolve' call index remaining) := by
  induction remaining with
  | nil => exact .refl _ _
  | cons reference later ih =>
    unfold processArgument Expansion.processArgument
    refine SameFrom.look (looks_isProcessed reference) fun processed => ?_
    split
    · refine SameFrom.kept (fun state => agrees.arguments state call)
        (looks_nodesOf .args call).upholds fun arguments => ?_
      cases arguments[index]? with
      | none => exact same_throw_bind _
      | some argument =>
        refine SameFrom.look looks_live fun live => ?_
        split
        · exact ((same reference later).mono fun _ _ => trivial).kept (keeps call reference later)
            fun _ => ih
        · exact ih
    · exact ih

/-- **The arguments of a call** are looked at as long as it is one. -/
theorem same_ensureArguments (call : NodeId) (remaining : List NodeId) :
    SameFrom (IsCall call) (accessors.ensureArguments resolve call remaining)
      (Expansion.ensureArguments resolve' call remaining) := by
  refine SameFrom.kept (fun state => agrees.arguments state call)
    (looks_nodesOf .args call).upholds fun arguments => ?_
  generalize List.range arguments.length = indices
  induction indices with
  | nil => exact .refl _ _
  | cons index rest ih =>
    exact (same_processArgument agrees same keeps call index remaining).kept
      (upholds_processArgument (keeps call) call index remaining) fun _ => ih

/-- **A climb** asks the members and calls that it has found. -/
theorem same_processChain (remaining : List NodeId) (steps : Nat) (position condition : NodeId)
    (branches : BranchSet NodeId) :
    SameFrom (fun _ => True)
      (accessors.processChain resolve entry steps position condition branches remaining)
      (Expansion.processChain resolve' entry steps position condition branches remaining) := by
  induction steps generalizing position condition branches with
  | zero => exact .refl _ _
  | succ steps ih =>
    unfold processChain Expansion.processChain
    refine SameFrom.look (looks_parentOf position) fun parent => ?_
    refine (SameFrom.refl _ _).check IsMember (looks_nextMember entry parent position)
      (fun state member after found => (of_nextMember found).2) fun member => ?_
    refine (same_continuationOf agrees member entry).followed fun continuation => ?_
    refine SameFrom.look (looks_parentOf member) fun above => ?_
    refine (same_invocation agrees _ above member).check IsCall (looks_invocation above member _)
      (fun state call after found => (of_invocation found).2.1) fun call => ?_
    split
    · refine (same_noArguments agrees call _).kept (looks_noArguments call _).upholds fun _ => ?_
      exact (same_noKeywords agrees call _).kept (looks_noKeywords call _).upholds
        fun _ => .refl _ _
    refine (same_ensureArguments agrees same keeps call remaining).kept
      (upholds_ensureArguments (keeps call) call remaining) fun _ => ?_
    refine (same_noKeywords agrees call _).kept (looks_noKeywords call _).upholds fun _ => ?_
    split
    · refine (same_singleArgument agrees call _).kept (looks_singleArgument call _).upholds
        fun argument => ?_
      refine SameFrom.look (looks_expressionLike argument call _) fun _ => ?_
      exact ((ih call argument {}).mono fun _ _ => trivial).followed fun nested => .refl _ _
    have later : ∀ branches', SameFrom (IsCall call)
        (accessors.processChain resolve entry steps call condition branches' remaining)
        (Expansion.processChain resolve' entry steps call condition branches' remaining) :=
      fun branches' => (ih call condition branches').mono fun _ _ => trivial
    cases Branch.ofContinuation continuation with
    | error fault => split <;> exact same_throw_bind _
    | ok branch =>
      split
      · refine SameFrom.look (looks_pure branch) fun branch => ?_
        refine (same_singleArgument agrees call _).kept (looks_singleArgument call _).upholds
          fun argument => ?_
        exact SameFrom.look (looks_expressionLike argument call _) fun _ => later _
      · refine SameFrom.look (looks_pure branch) fun branch => ?_
        refine SameFrom.kept (fun state => agrees.arguments state call)
          (looks_nodesOf .args call).upholds fun arguments => ?_
        exact (SameFrom.refl _ _).kept (lasting_call call).upholds_undefined fun _ => later _

/-- **The expansion of one reference.** -/
theorem same_expandReference (reference : NodeId) (remaining : List NodeId) :
    SameFrom (fun _ => True) (accessors.expandReference resolve entry reference remaining)
      (Expansion.expandReference resolve' entry reference remaining) := by
  unfold expandReference Expansion.expandReference
  refine SameFrom.look (looks_isProcessed reference) fun processed => ?_
  split
  · exact .refl _ _
  refine SameFrom.look (looks_parentOf reference) fun parent => ?_
  refine (same_invocation agrees entry parent reference).check IsCall
    (looks_invocation parent reference entry)
    (fun state call after found => (of_invocation found).2.1) fun call => ?_
  refine (same_ensureArguments agrees same keeps call remaining).kept
    (upholds_ensureArguments (keeps call) call remaining) fun _ => ?_
  refine (same_noKeywords agrees call entry).kept (looks_noKeywords call entry).upholds
    fun _ => ?_
  refine (same_singleArgument agrees call entry).kept (looks_singleArgument call entry).upholds
    fun condition => ?_
  refine SameFrom.look (looks_expressionLike condition call entry) fun _ => ?_
  have climb : SameFrom (fun _ => True)
      (accessors.walkChain resolve entry call condition remaining)
      (Expansion.walkChain resolve' entry call condition remaining) :=
    SameFrom.look looks_live fun live =>
      same_processChain agrees same keeps entry remaining live.size call condition {}
  exact (climb.mono fun _ _ => trivial).followed fun result => .refl _ _

end Steps

section Lists

variable (entry : String)

theorem same_resolver (depth : Nat) (reference : NodeId) (remaining : List NodeId) :
    SameFrom (fun _ => True) (accessors.resolver entry depth reference remaining)
      (Expansion.resolver entry depth reference remaining) := by
  induction depth generalizing reference remaining with
  | zero => exact .refl _ _
  | succ depth ih =>
    exact same_expandReference agrees ih
      (fun call => (lasting_call call).upholds_resolver entry depth) entry reference remaining

theorem same_processAll (references : List NodeId) :
    SameFrom (fun _ => True) (accessors.processAll entry references)
      (Expansion.processAll entry references) := by
  induction references with
  | nil => exact .refl _ _
  | cons reference later ih =>
    unfold processAll Expansion.processAll
    refine SameFrom.look (looks_isProcessed reference) fun processed => ?_
    split
    · exact (same_resolver agrees entry _ reference later).followed fun _ => ih
    · exact ih

/-- **Expanding the chains of a list**, from any state whatever. -/
theorem same_dispatch (references : List NodeId) :
    SameFrom (fun _ => True) (accessors.dispatch entry references)
      (Expansion.dispatch entry references) := by
  unfold dispatch Expansion.dispatch
  refine (SameFrom.refl _ _).followed fun _ => ?_
  exact (same_processAll agrees entry references).followed fun _ => .refl _ _

end Lists

omit agrees

section Strict

/-- A walk that stops unless a node is of some kind. -/
def asking {β : Type} (kind : NodeKind) (node : NodeId) (walk : Walk β) : Walk β := do
  if (← kindOf node) = kind then walk
  else throw (.misread ((← live).label node).typeName kind.name)

/-- Ways to look into calls and members that stop at nodes of any other kind. -/
def strict : Accessors where
  calleeOf call := asking .call call (Walk.calleeOf call)
  argumentsOf call := asking .call call (Walk.argumentsOf call)
  keywordsOf call := asking .call call (Walk.keywordsOf call)
  memberOf member := asking .member member (Walk.memberOf member)

/-- At a node of the kind, the walk is as it was. -/
theorem outcome_asking {β : Type} {state : WalkState} {kind : NodeKind} {node : NodeId}
    (walk : Walk β) (isKind : NodeKind.ofLabel (state.live.label node) = kind) :
    (asking kind node walk).outcome state = walk.outcome state := by
  have looks : (kindOf node).outcome state = (.ok (.ofLabel (state.live.label node)), state) := rfl
  unfold asking
  rw [outcome_bind_ok looks, if_pos isKind]

/-- **Stopping at nodes of other kinds** agrees on calls and on members. -/
theorem agrees_strict : strict.Agrees where
  callee _ _ isCall := outcome_asking _ (NodeKind.ofLabel_eq_call.mpr isCall)
  arguments _ _ isCall := outcome_asking _ (NodeKind.ofLabel_eq_call.mpr isCall)
  keywords _ _ isCall := outcome_asking _ (NodeKind.ofLabel_eq_call.mpr isCall)
  member _ _ isMember := outcome_asking _ (NodeKind.ofLabel_eq_member.mpr isMember)

end Strict

end Accessors

end IfChains
