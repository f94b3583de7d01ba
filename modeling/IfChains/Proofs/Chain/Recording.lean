/-
**Recording replacements.**

A recording goes through the steps of the expansion of a list, one by one, and notes each
replacement of a node with the table in which it is made. It comes to what the expansion comes to.

* `Recording.dispatch`: the expansion of a list, with its replacements noted in order;
* `Follows`: a recording returns what a walk returns, and what it notes is accounted for by the
  states before and after;
* `follows_reach`: the recording of an expansion follows it, if the recordings of the expansions
  inside arguments do;
* `exists_recorded`: the recording of a list follows its expansion, and the replacements that are
  noted account for every change of the table.
-/

import IfChains.Proofs.Chain.Lasting
import IfChains.Proofs.Chain.Resolution

namespace IfChains

open IfChains.Walk

/-- A node is put in the place of another one, in a table. -/
structure Replacement where
  old : NodeId
  new : NodeId
  before : LiveTree

namespace LiveTree

/-- What becomes of a table by some replacements, when nodes are made before, between and after
them and nothing else is changed. -/
inductive Undergoes : LiveTree → List Replacement → LiveTree → Prop
  | grown {live live' : LiveTree} (grown : live.Grown live') : Undergoes live [] live'
  | replaced {live next live' : LiveTree} {replacement : Replacement} {log : List Replacement}
      (grown : live.Grown replacement.before)
      (replaced : replacement.before.replace? replacement.old replacement.new = some next)
      (rest : Undergoes next log live') : Undergoes live (replacement :: log) live'

variable {live live' live'' : LiveTree} {log log' : List Replacement}

theorem Undergoes.of_grown (grown : Grown live live') (undergoes : Undergoes live' log live'') :
    Undergoes live log live'' := by
  cases undergoes with
  | grown further => exact .grown (grown.trans further)
  | replaced further replaced rest => exact .replaced (grown.trans further) replaced rest

theorem Undergoes.trans (first : Undergoes live log live') (second : Undergoes live' log' live'') :
    Undergoes live (log ++ log') live'' := by
  induction first with
  | grown grown => exact second.of_grown grown
  | replaced grown replaced _ ih => exact .replaced grown replaced (ih second)

end LiveTree

/-- A walk that notes the replacements it makes, in order. -/
abbrev Recording := StateT (List Replacement) Walk

namespace Recording

open Expansion (ChainResult)

/-- How the expansion of the chain of a reference is recorded. -/
abbrev Resolver := NodeId → List NodeId → Recording Bool

/-- Puts a node in the place of another one, and notes it. -/
def replace (old new : NodeId) : Recording Unit := do
  let before ← live
  Walk.replace old new
  modify fun log => log ++ [⟨old, new, before⟩]

section Steps

variable (resolve : Resolver) (entry : String)

/-- The expansion of the chains inside an argument of a call. -/
def processArgument (call : NodeId) (index : Nat) : List NodeId → Recording Unit
  | [] => return
  | reference :: later => do
    if !(← isProcessed reference) then
      match (← argumentsOf call)[index]? with
      | some argument =>
        if (← live).contains argument reference then
          let _ ← resolve reference later
      | none => liftM (throw .noItem : Walk Unit)
    processArgument call index later

/-- The expansion of the chains inside the arguments of a call. -/
def ensureArguments (call : NodeId) (remaining : List NodeId) : Recording Unit := do
  (List.range (← argumentsOf call).length).forM fun index =>
    processArgument resolve call index remaining

/-- The climb from a call of a chain to its end. -/
def processChain : (steps : Nat) → (position condition : NodeId) → BranchSet NodeId →
    (remaining : List NodeId) → Recording ChainResult
  | 0, _, _, _, _ => liftM (throw .endless : Walk ChainResult)
  | steps + 1, position, condition, branches, remaining => do
    let member ← Shape.nextMember entry (← parentOf position) position
    let continuation ← Shape.continuationOf entry member
    let label := "member " ++ continuation.keyword
    let call ← Shape.invocation (← parentOf member) member label
    if continuation.isTerminal then
      Shape.noArguments call label
      Shape.noKeywords call label
      return ⟨call, ← Synthesis.conditional branches condition⟩
    ensureArguments resolve call remaining
    Shape.noKeywords call label
    if continuation = .elseIf then
      let argument ← Shape.singleArgument call label
      Shape.expressionLike argument call label
      let nested ← processChain steps call argument {} remaining
      let branches := branches.replaceAlternate nested.expr
      return ⟨nested.top, ← Synthesis.conditional branches condition⟩
    let branch ← match Branch.ofContinuation continuation with
      | .ok branch => pure branch
      | .error fault => liftM (throw (.noBranch fault) : Walk Branch)
    if continuation.takesSingle then
      let argument ← Shape.singleArgument call label
      Shape.expressionLike argument call label
      processChain steps call condition (branches.push branch argument) remaining
    else
      let branches := branches.pushDiscarded branch (← argumentsOf call) (← undefined)
      processChain steps call condition branches remaining

/-- The walk along a chain from a call. -/
def walkChain (position condition : NodeId) (remaining : List NodeId) : Recording ChainResult := do
  processChain resolve entry (← live).size position condition {} remaining

/-- What is done before the chain of a reference is replaced. -/
def reach (reference : NodeId) (remaining : List NodeId) : Recording (NodeId × ChainResult) := do
  let call ← Shape.invocation (← parentOf reference) reference entry
  ensureArguments resolve call remaining
  Shape.noKeywords call entry
  let condition ← Shape.singleArgument call entry
  Shape.expressionLike condition call entry
  return (call, ← walkChain resolve entry call condition remaining)

/-- The expansion of the chain of a reference. -/
def expandReference (reference : NodeId) (remaining : List NodeId) : Recording Bool := do
  if ← isProcessed reference then return false
  let (call, result) ← reach resolve entry reference remaining
  replace result.top result.expr
  markProcessed reference
  remark (.expanded entry ((← live).location call))
  return true

end Steps

/-- The expansion of the chain of a reference, with a bound on the depth of nested expansions. -/
def resolver (entry : String) : (depth : Nat) → Resolver
  | 0 => fun _ _ => liftM (throw .endless : Walk Bool)
  | depth + 1 => expandReference (resolver entry depth) entry

/-- The expansion of the chains of a list, in order. -/
def processAll (entry : String) : List NodeId → Recording Unit
  | [] => return
  | reference :: later => do
    if !(← isProcessed reference) then
      let _ ← resolver entry (later.length + 1) reference later
    processAll entry later

/-- The expansion of the chains of a list, and the number of those expanded. -/
def dispatch (entry : String) (references : List NodeId) : Recording Nat := do
  (modify fun state => { state with processed := [] } : Walk Unit)
  processAll entry references
  let count := (← (get : Walk WalkState)).processed.length
  remark (.total count entry)
  return count

section Following

variable {α β : Type} {accounts : WalkState → List Replacement → WalkState → Prop}

/-- A recording follows a walk: it returns what the walk returns and stops where the walk stops at a
malformed chain, and what it notes is accounted for by the states before and after. -/
def Follows (accounts : WalkState → List Replacement → WalkState → Prop) (walk : Walk α)
    (recording : Recording α) : Prop :=
  ∀ state log, Meets walk state
    (fun value after => ∃ new, (recording.run log).outcome state = (.ok (value, log ++ new), after) ∧
      accounts state new after)
    fun fault after => ∀ shape location, fault = .shape shape location →
      (recording.run log).outcome state = (.error fault, after)

/-- A way to account for replacements: making nodes needs none, and what is noted in two parts is
accounted for part by part. -/
structure Ledger (accounts : WalkState → List Replacement → WalkState → Prop) : Prop where
  grown : ∀ {state state' : WalkState}, LiveTree.Grown state.live state'.live →
    state'.processed = state.processed → accounts state [] state'
  trans : ∀ {state state' state'' : WalkState} {log log' : List Replacement},
    accounts state log state' → accounts state' log' state'' → accounts state (log ++ log') state''

section Quiet

/-- A walk makes nodes at most, and notes no expansion. -/
def Quiet (walk : Walk α) : Prop :=
  ∀ start : WalkState, Upholds (fun state => LiveTree.Grown start.live state.live ∧
    state.processed = start.processed) walk fun _ => True

theorem quiet_looks {walk : Walk α} (looks : Looks walk) : Quiet walk :=
  fun _ => looks.upholds

theorem Quiet.bind {walk : Walk α} {next : α → Walk β} (first : Quiet walk)
    (rest : ∀ value, Quiet (next value)) : Quiet (walk >>= next) :=
  fun start => (first start).bind fun value _ => rest value start

theorem quiet_make (label : Label) (slots : List (Role × NodeId)) : Quiet (make label slots) :=
  fun _ _ both => ⟨⟨both.1.trans (LiveTree.grown_push ..), both.2⟩, trivial⟩

theorem quiet_branch (exprs : List NodeId) : Quiet (Synthesis.branch exprs) := by
  unfold Synthesis.branch
  split
  · exact quiet_make _ _
  · exact quiet_looks (looks_pure _)
  · exact (quiet_make _ _).bind fun _ => (quiet_make _ _).bind fun _ =>
      (quiet_make _ _).bind fun _ => quiet_make _ _

/-- Making a conditional expression makes nodes. -/
theorem quiet_conditional (branches : BranchSet NodeId) (condition : NodeId) :
    Quiet (Synthesis.conditional branches condition) :=
  (quiet_branch _).bind fun _ => (quiet_branch _).bind fun _ => quiet_make _ _

end Quiet

section Rules

/-- A step that always stops, but not at a malformed chain. -/
theorem follows_throw_bind {next : α → Walk β} {next' : α → Recording β} (fault : WalkFault) :
    Follows accounts ((throw fault : Walk α) >>= next) (liftM (throw fault : Walk α) >>= next') :=
  fun _ _ _ _ _ => rfl

variable (ledger : Ledger accounts) {walk : Walk α} {next : α → Walk β} {recording : Recording α}
  {next' : α → Recording β}

/-- What a recording notes after a step that notes nothing. -/
theorem run_lift_bind (walk : Walk α) (next' : α → Recording β) (log : List Replacement) :
    StateT.run (liftM walk >>= next') log = walk >>= fun value => StateT.run (next' value) log := by
  simp

include ledger

theorem follows_pure (value : α) : Follows accounts (pure value) (pure value) := by
  intro state log
  refine meets_pure ⟨[], ?_, ledger.grown (.refl _) rfl⟩
  rw [List.append_nil]
  rfl

/-- **One step after the other.** -/
theorem Follows.bind (first : Follows accounts walk recording)
    (rest : ∀ value, Follows accounts (next value) (next' value)) :
    Follows accounts (walk >>= next) (recording >>= next') := by
  intro state log
  have met := first state log
  rw [Meets] at met
  split at met
  · rename_i value after same
    obtain ⟨new, recorded, accounted⟩ := met
    refine meets_bind_ok same ((rest value after (log ++ new)).imp ?_ ?_)
    · rintro value' after' ⟨new', recorded', accounted'⟩
      refine ⟨new ++ new', ?_, ledger.trans accounted accounted'⟩
      rw [StateT.run_bind, outcome_bind_ok recorded, ← List.append_assoc]
      exact recorded'
    · intro fault after' stops shape location same'
      rw [StateT.run_bind, outcome_bind_ok recorded]
      exact stops shape location same'
  · rename_i fault after same
    rw [Meets, outcome_bind_error same, StateT.run_bind]
    exact fun shape location same' => outcome_bind_error (met shape location same')

/-- A step that replaces nothing. -/
theorem follows_lift (quiet : Quiet walk) : Follows accounts walk (liftM walk) := by
  intro state log
  have lifted : StateT.run (liftM walk : Recording α) log =
      walk >>= fun value => pure (value, log) := by
    simp
  have made := quiet state state ⟨.refl _, rfl⟩
  rw [Meets] at made ⊢
  rw [lifted]
  split at made
  · rename_i value after same
    rw [outcome_bind_ok same]
    exact ⟨[], by rw [List.append_nil]; rfl, ledger.grown made.1.1 made.1.2⟩
  · rename_i fault after same
    exact fun _ _ _ => outcome_bind_error same

/-- A step that replaces nothing, and what follows. -/
theorem follows_quiet (quiet : Quiet walk)
    (rest : ∀ value, Follows accounts (next value) (next' value)) :
    Follows accounts (walk >>= next) (liftM walk >>= next') :=
  (follows_lift ledger quiet).bind ledger rest

/-- A step that only looks, and what follows. -/
theorem follows_look (looks : Looks walk)
    (rest : ∀ value, Follows accounts (next value) (next' value)) :
    Follows accounts (walk >>= next) (liftM walk >>= next') :=
  follows_quiet ledger (quiet_looks looks) rest

end Rules

section Steps

variable (ledger : Ledger accounts) {resolve : Expansion.Resolver} {resolve' : Resolver}
  (resolves : ∀ reference later, Follows accounts (resolve reference later)
    (resolve' reference later))
  (entry : String)

include ledger resolves

theorem follows_processArgument (call : NodeId) (index : Nat) (remaining : List NodeId) :
    Follows accounts (Expansion.processArgument resolve call index remaining)
      (processArgument resolve' call index remaining) := by
  induction remaining with
  | nil => exact follows_pure ledger ()
  | cons reference later ih =>
    unfold Expansion.processArgument processArgument
    refine follows_look ledger (looks_isProcessed reference) fun processed => ?_
    split
    · refine follows_look ledger (looks_nodesOf .args call) fun arguments => ?_
      cases arguments[index]? with
      | some argument =>
        refine follows_look ledger looks_live fun live => ?_
        split
        · exact (resolves reference later).bind ledger fun _ => ih
        · exact ih
      | none => exact follows_throw_bind _
    · exact ih

theorem follows_ensureArguments (call : NodeId) (remaining : List NodeId) :
    Follows accounts (Expansion.ensureArguments resolve call remaining)
      (ensureArguments resolve' call remaining) := by
  refine follows_look ledger (looks_nodesOf .args call) fun arguments => ?_
  generalize List.range arguments.length = indices
  induction indices with
  | nil => exact follows_pure ledger ()
  | cons index rest ih =>
    exact (follows_processArgument ledger resolves call index remaining).bind ledger fun _ => ih

/-- **The recording of a climb follows it.** -/
theorem follows_processChain (remaining : List NodeId) (steps : Nat) (position condition : NodeId)
    (branches : BranchSet NodeId) :
    Follows accounts
      (Expansion.processChain resolve entry steps position condition branches remaining)
      (processChain resolve' entry steps position condition branches remaining) := by
  induction steps generalizing position condition branches with
  | zero => exact follows_lift ledger (quiet_looks (looks_throw _))
  | succ steps ih =>
    unfold Expansion.processChain processChain
    refine follows_look ledger (looks_parentOf position) fun parent => ?_
    refine follows_look ledger (looks_nextMember entry parent position) fun member => ?_
    refine follows_look ledger (looks_continuationOf entry member) fun continuation => ?_
    refine follows_look ledger (looks_parentOf member) fun above => ?_
    refine follows_look ledger (looks_invocation above member _) fun call => ?_
    split
    · refine follows_look ledger (looks_noArguments call _) fun _ => ?_
      refine follows_look ledger (looks_noKeywords call _) fun _ => ?_
      exact follows_quiet ledger (quiet_conditional branches condition) fun expr =>
        follows_pure ledger _
    refine (follows_ensureArguments ledger resolves call remaining).bind ledger fun _ => ?_
    refine follows_look ledger (looks_noKeywords call _) fun _ => ?_
    split
    · refine follows_look ledger (looks_singleArgument call _) fun argument => ?_
      refine follows_look ledger (looks_expressionLike argument call _) fun _ => ?_
      refine (ih call argument {}).bind ledger fun nested => ?_
      exact follows_quiet ledger (quiet_conditional _ condition) fun expr => follows_pure ledger _
    cases Branch.ofContinuation continuation with
    | error fault => split <;> exact follows_throw_bind _
    | ok branch =>
      split
      · refine (follows_pure ledger branch).bind ledger fun branch => ?_
        refine follows_look ledger (looks_singleArgument call _) fun argument => ?_
        refine follows_look ledger (looks_expressionLike argument call _) fun _ => ?_
        exact ih call condition _
      · refine (follows_pure ledger branch).bind ledger fun branch => ?_
        refine follows_look ledger (looks_nodesOf .args call) fun arguments => ?_
        exact follows_quiet ledger (quiet_make _ _) fun undefined => ih call condition _

theorem follows_walkChain (position condition : NodeId) (remaining : List NodeId) :
    Follows accounts (Expansion.walkChain resolve entry position condition remaining)
      (walkChain resolve' entry position condition remaining) :=
  follows_look ledger looks_live fun live =>
    follows_processChain ledger resolves entry remaining live.size position condition {}

/-- **Up to the replacement of a chain** its recording follows its expansion, if the recordings of
the expansions inside arguments do. -/
theorem follows_reach (reference : NodeId) (remaining : List NodeId) :
    Follows accounts (Expansion.reach resolve entry reference remaining)
      (reach resolve' entry reference remaining) := by
  unfold Expansion.reach reach
  refine follows_look ledger (looks_parentOf reference) fun parent => ?_
  refine follows_look ledger (looks_invocation parent reference entry) fun call => ?_
  refine (follows_ensureArguments ledger resolves call remaining).bind ledger fun _ => ?_
  refine follows_look ledger (looks_noKeywords call entry) fun _ => ?_
  refine follows_look ledger (looks_singleArgument call entry) fun condition => ?_
  refine follows_look ledger (looks_expressionLike condition call entry) fun _ => ?_
  exact (follows_walkChain ledger resolves entry call condition remaining).bind ledger fun result =>
    follows_pure ledger (call, result)

end Steps

section Replacing

variable {state : WalkState} {old new reference : NodeId} {table : LiveTree}

/-- **Replacing a chain that has been reached** comes to the same with and without a recording, which
notes it. -/
theorem exists_replaced (reference : NodeId) (note : LiveTree → Remark)
    (replaced : state.live.replace? old new = some table) : ∃ after : WalkState,
      after.live = table ∧ after.processed = reference :: state.processed ∧
      (do
        Walk.replace old new
        markProcessed reference
        remark (note (← live))
        return true : Walk Bool).outcome state = (.ok true, after) ∧
      ∀ log, ((do
        replace old new
        markProcessed reference
        remark (note (← live))
        return true : Recording Bool).run log).outcome state =
          (.ok (true, log ++ [⟨old, new, state.live⟩]), after) := by
  have outcome := outcome_replace replaced
  refine ⟨_, rfl, rfl, outcome_bind_ok outcome, fun log => ?_⟩
  have noted : ((replace old new).run log).outcome state =
      (.ok ((), log ++ [⟨old, new, state.live⟩]), { state with live := table }) := by
    rw [replace, run_lift_bind, outcome_bind_ok outcome_live, run_lift_bind,
      outcome_bind_ok outcome]
    rfl
  rw [StateT.run_bind, outcome_bind_ok noted]
  rfl

end Replacing

section Whole

variable (ledger : Ledger accounts)
  (replaces : ∀ {state after : WalkState} {old new reference : NodeId},
    state.live.replace? old new = some after.live → after.processed = reference :: state.processed →
    accounts state [⟨old, new, state.live⟩] after)
  (entry : String)

include ledger replaces

/-- The recording of the expansion of one reference follows it. -/
theorem follows_expandReference {resolve : Expansion.Resolver} {resolve' : Resolver}
    (resolves : ∀ reference later, Follows accounts (resolve reference later)
      (resolve' reference later)) (reference : NodeId) (remaining : List NodeId) :
    Follows accounts (Expansion.expandReference resolve entry reference remaining)
      (expandReference resolve' entry reference remaining) := by
  rw [Expansion.expandReference_eq, expandReference]
  refine follows_look ledger (looks_isProcessed reference) fun processed => ?_
  split
  · exact follows_pure ledger false
  refine (follows_reach ledger resolves entry reference remaining).bind ledger fun reached => ?_
  obtain ⟨call, result⟩ := reached
  intro state log
  cases replaced : state.live.replace? result.top result.expr with
  | none =>
    rw [Meets, outcome_bind_error (outcome_replace_none replaced)]
    intro shape location same
    cases same
  | some table =>
    obtain ⟨after, rfl, processed, outcome, recorded⟩ :=
      exists_replaced reference (fun live => .expanded entry (live.location call)) replaced
    rw [Meets, outcome]
    exact ⟨_, recorded log, replaces replaced processed⟩

theorem follows_resolver (depth : Nat) (reference : NodeId) (remaining : List NodeId) :
    Follows accounts (Expansion.resolver entry depth reference remaining)
      (resolver entry depth reference remaining) := by
  induction depth generalizing reference remaining with
  | zero => exact follows_lift ledger (quiet_looks (looks_throw _))
  | succ depth ih => exact follows_expandReference ledger replaces entry ih reference remaining

theorem follows_processAll (references : List NodeId) :
    Follows accounts (Expansion.processAll entry references) (processAll entry references) := by
  induction references with
  | nil => exact follows_pure ledger ()
  | cons reference later ih =>
    unfold Expansion.processAll processAll
    refine follows_look ledger (looks_isProcessed reference) fun processed => ?_
    split
    · exact (follows_resolver ledger replaces entry _ reference later).bind ledger fun _ => ih
    · exact ih

end Whole

/-- **Replacements account for the changes of the table.** -/
theorem ledger_undergoes : Ledger fun state log state' => state.live.Undergoes log state'.live where
  grown grown _ := .grown grown
  trans := .trans

section Dispatching

variable {entry : String} {references : List NodeId} {state after : WalkState} {count : Nat}

/-- **The recording of the expansion of a list** comes to what the expansion comes to, and what it
notes are all the changes of the table. -/
theorem exists_recorded
    (returned : (Expansion.dispatch entry references).outcome state = (.ok count, after)) :
    ∃ log final, ((processAll entry references).run []).outcome { state with processed := [] } =
        (.ok ((), log), final) ∧
      ((dispatch entry references).run []).outcome state = (.ok (count, log), after) ∧
      count = final.processed.length ∧ after.live = final.live ∧
      state.live.Undergoes log after.live := by
  have resets : (modify fun state => { state with processed := [] } : Walk Unit).outcome state =
      (.ok (), { state with processed := [] }) := rfl
  have met := follows_processAll ledger_undergoes
    (fun replaced _ => .replaced (.refl _) replaced (.grown (.refl _))) entry references
    { state with processed := [] } []
  rw [Expansion.dispatch, outcome_bind_ok resets] at returned
  rw [Meets] at met
  split at met
  · rename_i value final same
    obtain ⟨log, recorded, undergoes⟩ := met
    rw [outcome_bind_ok same] at returned
    cases returned
    refine ⟨log, final, recorded, ?_, rfl, rfl, undergoes⟩
    rw [dispatch, run_lift_bind, outcome_bind_ok resets, StateT.run_bind, outcome_bind_ok recorded]
    rfl
  · rename_i fault final same
    rw [outcome_bind_error same] at returned
    cases returned

end Dispatching

end Following

end Recording

end IfChains
