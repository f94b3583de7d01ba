/-
**Walks whose loops are counted.**

A walk climbs along chains and along recorded parents, records the parents of what it puts into the
tree, and calls itself for the chains inside arguments. Counted, each of these may take a limited
number of turns, and a walk that would take more is endless. The limit stands for no bound in the
program: where a walk and the counted walk come to the same for every limit beyond some number, the
loops end by themselves.

* `Counted.dispatch`: the expansion of a list, with a limit on the turns of every loop;
* `Finishes`: the counted walk comes to the same, if the limit exceeds the number of nodes at last;
* `Finishes.bind`, `Finishes.look`, `Finishes.check`: such walks one after the other.
-/

import IfChains.Proofs.Chain.Recording
import IfChains.Proofs.Chain.Stopping
import IfChains.Proofs.LiveTree.Turns

namespace IfChains

open IfChains.Walk

namespace Counted

open Expansion (ChainResult Resolver)

variable (limit : Nat)

/-- Whether a node is another one or lies beneath it. -/
def contains (ancestor id : NodeId) : Walk Bool := do
  match (← live).reachesWithin? ancestor limit id with
  | some answer => return answer
  | none => throw .endless

/-- Puts a node in the place of another one. -/
def replace (old new : NodeId) : Walk Unit := do
  let state ← get
  match state.live.swapped? old new with
  | some swapped =>
    match swapped.indexWithin? limit [new] with
    | some live => set { state with live := live }
    | none => throw .endless
  | none => throw (.detached (state.live.label old).typeName)

section Steps

variable (resolve : Resolver) (entry : String)

/-- The expansion of the chains inside an argument of a call. -/
def processArgument (call : NodeId) (index : Nat) : List NodeId → Walk Unit
  | [] => return
  | reference :: later => do
    if !(← isProcessed reference) then
      match (← argumentsOf call)[index]? with
      | some argument =>
        if ← contains limit argument reference then
          let _ ← resolve reference later
      | none => throw .noItem
    processArgument call index later

/-- The expansion of the chains inside the arguments of a call. -/
def ensureArguments (call : NodeId) (remaining : List NodeId) : Walk Unit := do
  (List.range (← argumentsOf call).length).forM fun index =>
    processArgument limit resolve call index remaining

/-- The climb from a call of a chain to its end; `else_if` calls it anew. -/
def processChain : (turns : Nat) → (position condition : NodeId) → BranchSet NodeId →
    (remaining : List NodeId) → Walk ChainResult
  | 0, _, _, _, _ => throw .endless
  | turns + 1, position, condition, branches, remaining => do
    let member ← Shape.nextMember entry (← parentOf position) position
    let continuation ← Shape.continuationOf entry member
    let label := "member " ++ continuation.keyword
    let call ← Shape.invocation (← parentOf member) member label
    if continuation.isTerminal then
      Shape.noArguments call label
      Shape.noKeywords call label
      return ⟨call, ← Synthesis.conditional branches condition⟩
    ensureArguments limit resolve call remaining
    Shape.noKeywords call label
    if continuation = .elseIf then
      let argument ← Shape.singleArgument call label
      Shape.expressionLike argument call label
      let nested ← processChain turns call argument {} remaining
      let branches := branches.replaceAlternate nested.expr
      return ⟨nested.top, ← Synthesis.conditional branches condition⟩
    let branch ← match Branch.ofContinuation continuation with
      | .ok branch => pure branch
      | .error fault => throw (.noBranch fault)
    if continuation.takesSingle then
      let argument ← Shape.singleArgument call label
      Shape.expressionLike argument call label
      processChain turns call condition (branches.push branch argument) remaining
    else
      let branches := branches.pushDiscarded branch (← argumentsOf call) (← undefined)
      processChain turns call condition branches remaining

/-- What is done before the chain of a reference is replaced. -/
def reach (reference : NodeId) (remaining : List NodeId) : Walk (NodeId × ChainResult) := do
  let call ← Shape.invocation (← parentOf reference) reference entry
  ensureArguments limit resolve call remaining
  Shape.noKeywords call entry
  let condition ← Shape.singleArgument call entry
  Shape.expressionLike condition call entry
  return (call, ← processChain limit resolve entry limit call condition {} remaining)

/-- The expansion of the chain of a reference. -/
def expandReference (reference : NodeId) (remaining : List NodeId) : Walk Bool := do
  if ← isProcessed reference then return false
  let (call, result) ← reach limit resolve entry reference remaining
  replace limit result.top result.expr
  markProcessed reference
  remark (.expanded entry ((← live).location call))
  return true

end Steps

/-- The expansion of the chain of a reference, with a bound on the depth of nested expansions. -/
def resolver (entry : String) : (depth : Nat) → Resolver
  | 0 => fun _ _ => throw .endless
  | depth + 1 => expandReference limit (resolver entry depth) entry

/-- The expansion of the chains of a list, in order. -/
def processAll (entry : String) : List NodeId → Walk Unit
  | [] => return
  | reference :: later => do
    if !(← isProcessed reference) then
      let _ ← resolver limit entry limit reference later
    processAll entry later

/-- The expansion of the chains of a list, and the number of those expanded. -/
def dispatch (entry : String) (references : List NodeId) : Walk Nat := do
  modify fun state => { state with processed := [] }
  processAll limit entry references
  let count := (← get).processed.length
  remark (.total count entry)
  return count

end Counted

namespace Walk

variable {α β : Type} {limit : Nat} {holds : WalkState → Prop} {walk counted : Walk α}
  {next next' : α → Walk β}

/-- A walk is never endless. -/
abbrev Calm (walk : Walk α) : Prop :=
  Stops (fun fault => fault ≠ .endless) walk

instance : Rejects fun fault => fault ≠ .endless where
  misread _ _ := nofun
  noList _ := nofun
  shape _ _ := nofun

/-- From states with a property, a walk makes no fewer nodes than none, is not endless, and is what
the counted walk comes to if the limit exceeds the number of nodes in the end. -/
structure Finishes (limit : Nat) (holds : WalkState → Prop) (counted walk : Walk α) : Prop where
  grows : ∀ {state}, holds state → state.live.size ≤ (walk.outcome state).2.live.size
  calm : ∀ {state}, holds state → (walk.outcome state).1 ≠ .error .endless
  same : ∀ {state}, holds state → (walk.outcome state).2.live.size < limit →
    counted.outcome state = walk.outcome state

section Rules

/-- What is known of a state beforehand. -/
theorem Finishes.of_fact {fact : Prop} (finishes : fact → Finishes limit holds counted walk) :
    Finishes limit (fun state => fact ∧ holds state) counted walk :=
  ⟨fun held => (finishes held.1).grows held.2, fun held => (finishes held.1).calm held.2,
    fun held => (finishes held.1).same held.2⟩

/-- A walk without loops. -/
theorem finishes_same (grows : ∀ state, state.live.size ≤ (walk.outcome state).2.live.size)
    (calm : Calm walk) : Finishes limit holds walk walk :=
  ⟨fun _ => grows _, fun {state} _ endless => calm state _ endless rfl, fun _ _ => rfl⟩

/-- A walk that makes nodes at most. -/
theorem finishes_quiet (quiet : Recording.Quiet walk) (calm : Calm walk) :
    Finishes limit holds walk walk :=
  finishes_same (fun state => (Upholds.after (quiet state) ⟨.refl _, rfl⟩).1.size) calm

theorem finishes_pure (value : α) : Finishes limit holds (pure value) (pure value) :=
  finishes_quiet (Recording.quiet_looks (looks_pure value)) (stops_pure value)

/-- **A walk that ends, and what follows where it has returned.** -/
theorem Finishes.bind (left : α → WalkState → Prop) (first : Finishes limit holds counted walk)
    (returned : ∀ {state value after}, holds state → walk.outcome state = (.ok value, after) →
      left value after)
    (rest : ∀ value, Finishes limit (left value) (next' value) (next value)) :
    Finishes limit holds (counted >>= next') (walk >>= next) := by
  refine ⟨fun {state} held => ?_, fun {state} held => ?_, fun {state} held fewer => ?_⟩ <;>
    have grows := first.grows held <;> have calm := first.calm held <;>
    have same := first.same held <;>
    rcases come : walk.outcome state with ⟨fault | value, after⟩ <;>
    rw [come] at grows calm same
  · rw [outcome_bind_error come]
    exact grows
  · rw [outcome_bind_ok come]
    exact grows.trans ((rest value).grows (returned held come))
  · rw [outcome_bind_error come]
    exact fun endless => calm (by rw [Except.error.inj endless])
  · rw [outcome_bind_ok come]
    exact (rest value).calm (returned held come)
  · rw [outcome_bind_error come] at fewer ⊢
    exact outcome_bind_error (same fewer)
  · rw [outcome_bind_ok come] at fewer ⊢
    have further := (rest value).grows (returned held come)
    rw [outcome_bind_ok (same (Nat.lt_of_le_of_lt further fewer))]
    exact (rest value).same (returned held come) fewer

/-- A walk that ends and keeps the property, and what follows. -/
theorem Finishes.kept {found : α → Prop} (first : Finishes limit holds counted walk)
    (keeps : Upholds holds walk found)
    (rest : ∀ value, Finishes limit holds (next' value) (next value)) :
    Finishes limit holds (counted >>= next') (walk >>= next) := by
  refine first.bind (fun _ => holds) (fun {state value after} held come => ?_) rest
  have kept := keeps.after held
  rwa [come] at kept

/-- A step that looks, what it has found, and what follows. -/
theorem Finishes.check (left : α → WalkState → Prop) (looks : Looks walk) (calm : Calm walk)
    (found : ∀ {state value after}, holds state → walk.outcome state = (.ok value, after) →
      left value state)
    (rest : ∀ value, Finishes limit (left value) (next' value) (next value)) :
    Finishes limit holds (walk >>= next') (walk >>= next) := by
  refine (finishes_quiet (Recording.quiet_looks looks) calm).bind left
    (fun {state value after} held come => ?_) rest
  have unchanged := looks state
  rw [come] at unchanged
  obtain rfl : after = state := unchanged
  exact found held come

/-- A step that looks, and what follows. -/
theorem Finishes.look (looks : Looks walk) (calm : Calm walk)
    (rest : ∀ value, Finishes limit holds (next' value) (next value)) :
    Finishes limit holds (walk >>= next') (walk >>= next) :=
  Finishes.check (fun _ => holds) looks calm (fun held _ => held) rest

/-- A step that always stops, but is not endless. -/
theorem finishes_throw_bind {fault : WalkFault} (other : fault ≠ .endless) :
    Finishes limit holds ((throw fault : Walk α) >>= next') ((throw fault : Walk α) >>= next) :=
  ⟨fun _ => Nat.le_refl _, fun _ endless => other (Except.error.inj endless), fun _ _ => rfl⟩

end Rules

end Walk

end IfChains
