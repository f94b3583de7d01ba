/-
**What a walk keeps.**

A property of states is kept by a walk if the walk leaves a state with the property whenever it finds
one, whether it returns or stops. A walk that only looks keeps everything.

* `Upholds.bind`, `upholds_look`: walks that are taken one after the other;
* `upholds_found`: what a walk that looks has found;
* `looks_invocation`, `looks_singleArgument` and others: the checks of a chain's shape only look;
* `upholds_ensureArguments`, `upholds_dispatch`: expanding what is inside the arguments of a call,
  and the chains of a list, keeps what resolvers keep.
-/

import IfChains.Proofs.Chain.Outcome
import IfChains.Proofs.LiveTree.Replacement

namespace IfChains

namespace Walk

variable {α β : Type} {holds : WalkState → Prop}

/-- A walk keeps a property of states, and what it returns has another property. -/
def Upholds (holds : WalkState → Prop) (walk : Walk α) (returns : α → Prop) : Prop :=
  ∀ state, holds state →
    Meets walk state (fun value after => holds after ∧ returns value) fun _ after => holds after

/-- A walk that changes nothing. -/
def Looks (walk : Walk α) : Prop :=
  ∀ state, (walk.outcome state).2 = state

section Rules

variable {walk : Walk α} {next : α → Walk β} {found : α → Prop} {returns : β → Prop}

theorem Upholds.bind (first : Upholds holds walk found)
    (rest : ∀ value, found value → Upholds holds (next value) returns) :
    Upholds holds (walk >>= next) returns :=
  fun state held => (first state held).bind fun value after both => rest value both.2 after both.1

theorem upholds_pure {value : β} (met : returns value) : Upholds holds (pure value) returns :=
  fun _ held => ⟨held, met⟩

theorem upholds_throw (fault : WalkFault) : Upholds holds (throw fault) returns :=
  fun _ held => held

/-- What would follow a walk that stops does not matter. -/
theorem upholds_throw_bind (fault : WalkFault) :
    Upholds holds ((throw fault : Walk α) >>= next) returns :=
  fun _ held => held

theorem Upholds.imp {weaker : α → Prop} (upholds : Upholds holds walk found)
    (weakens : ∀ value, found value → weaker value) : Upholds holds walk weaker :=
  fun state held => (upholds state held).imp
    (fun value _ both => ⟨both.1, weakens value both.2⟩) fun _ _ kept => kept

/-- What a walk leaves, be it that it returns or stops. -/
theorem Upholds.after (upholds : Upholds holds walk found) {state : WalkState}
    (held : holds state) : holds (walk.outcome state).2 := by
  have met := upholds state held
  rw [Meets] at met
  split at met <;> rename_i same <;> rw [same]
  · exact met.1
  · exact met

theorem Looks.bind (first : Looks walk) (rest : ∀ value, Looks (next value)) :
    Looks (walk >>= next) := by
  intro state
  have same := first state
  rw [outcome_bind]
  split <;> rename_i value after outcome <;> rw [outcome] at same <;> subst same
  · exact rest value _
  · rfl

theorem looks_pure (value : α) : Looks (pure value) := fun _ => rfl

theorem looks_throw (fault : WalkFault) : Looks (throw fault : Walk α) := fun _ => rfl

theorem looks_failAt (node : Option NodeId) (fault : ShapeFault) :
    Looks (failAt node fault : Walk α) := fun _ => rfl

/-- A walk that changes nothing tells what it has found. -/
theorem upholds_found (looks : Looks walk)
    (tells : ∀ state value, holds state → walk.outcome state = (.ok value, state) → found value) :
    Upholds holds walk found := by
  intro state held
  have same := looks state
  rw [Meets]
  split <;> rename_i value after outcome <;> rw [outcome] at same <;> subst same
  · exact ⟨held, tells _ value held outcome⟩
  · exact held

/-- A walk that changes nothing keeps everything. -/
theorem Looks.upholds (looks : Looks walk) : Upholds holds walk fun _ => True :=
  upholds_found looks fun _ _ _ _ => trivial

/-- Looking first and then going on. -/
theorem upholds_look (looks : Looks walk)
    (rest : ∀ value, Upholds holds (next value) returns) : Upholds holds (walk >>= next) returns :=
  looks.upholds.bind fun value _ => rest value

end Rules

section Looking

theorem looks_live : Looks live := fun _ => rfl

theorem looks_kindOf (node : NodeId) : Looks (kindOf node) := fun _ => rfl

theorem looks_parentOf (node : NodeId) : Looks (parentOf node) := fun _ => rfl

theorem looks_isProcessed (reference : NodeId) : Looks (isProcessed reference) := fun _ => rfl

theorem looks_calleeOf (call : NodeId) : Looks (calleeOf call) := by
  refine looks_live.bind fun live => ?_
  split
  · exact looks_pure _
  · exact looks_throw _

theorem looks_nodesOf (role : Role) (node : NodeId) : Looks (nodesOf role node) := by
  refine looks_live.bind fun live => ?_
  split
  · exact looks_pure _
  · exact looks_throw _
  · split <;> exact looks_throw _

theorem looks_memberOf (member : NodeId) : Looks (memberOf member) := by
  refine looks_live.bind fun live => ?_
  split
  · exact looks_pure _
  · exact looks_throw _

theorem looks_invocation (node current : Option NodeId) (label : String) :
    Looks (Shape.invocation node current label) := by
  unfold Shape.invocation
  split
  · exact looks_failAt _ _
  · refine (looks_kindOf _).bind fun kind => ?_
    split
    · refine (looks_calleeOf _).bind fun callee => ?_
      split
      · exact looks_pure _
      · exact looks_failAt _ _
    · exact looks_failAt _ _

theorem looks_noKeywords (call : NodeId) (label : String) :
    Looks (Shape.noKeywords call label) := by
  refine (looks_nodesOf .keywords call).bind fun keywords => ?_
  split
  · exact looks_failAt _ _
  · exact looks_pure _

theorem looks_noArguments (call : NodeId) (label : String) :
    Looks (Shape.noArguments call label) := by
  refine (looks_nodesOf .args call).bind fun arguments => ?_
  split
  · exact looks_failAt _ _
  · exact looks_pure _

theorem looks_singleArgument (call : NodeId) (label : String) :
    Looks (Shape.singleArgument call label) := by
  refine (looks_nodesOf .args call).bind fun arguments => ?_
  split
  · exact looks_pure _
  · exact looks_failAt _ _

theorem looks_expressionLike (argument call : Option NodeId) (label : String) :
    Looks (Shape.expressionLike argument call label) := by
  unfold Shape.expressionLike
  cases argument with
  | none => exact looks_failAt _ _
  | some node =>
    refine (looks_kindOf node).bind fun kind => ?_
    beta_reduce
    split
    · exact looks_failAt _ _
    · exact looks_pure _

theorem looks_nextMember (entry : String) (parent position : Option NodeId) :
    Looks (Shape.nextMember entry parent position) := by
  unfold Shape.nextMember
  split
  · refine (looks_kindOf _).bind fun kind => ?_
    split
    · exact looks_pure _
    · exact looks_failAt _ _
  · exact looks_failAt _ _

theorem looks_continuationOf (entry : String) (member : NodeId) :
    Looks (Shape.continuationOf entry member) := by
  refine (looks_memberOf member).bind fun name => ?_
  split
  · exact looks_pure _
  · exact looks_failAt _ _

end Looking

section Expanding

variable {resolve : Expansion.Resolver} {remaining : List NodeId}

section Listed

variable (resolves : ∀ reference later, reference :: later ⊆ remaining →
  Upholds holds (resolve reference later) fun _ => True)

include resolves

/-- What a walk does with some of the listed references inside an argument. -/
theorem upholds_processArgument_of_subset (call : NodeId) (index : Nat) {references : List NodeId}
    (subset : references ⊆ remaining) :
    Upholds holds (Expansion.processArgument resolve call index references) fun _ => True := by
  induction references with
  | nil => exact upholds_pure trivial
  | cons reference later ih =>
    have rest := ih (List.subset_of_cons_subset subset)
    unfold Expansion.processArgument
    refine upholds_look (looks_isProcessed reference) fun processed => ?_
    split
    · refine upholds_look (looks_nodesOf .args call) fun arguments => ?_
      split
      · refine upholds_look looks_live fun live => ?_
        split
        · exact (resolves reference later subset).bind fun _ _ => rest
        · exact rest
      · exact upholds_throw_bind _
    · exact rest

/-- What a walk does with the listed references inside the arguments of a call. -/
theorem upholds_ensureArguments_of_subset (call : NodeId) :
    Upholds holds (Expansion.ensureArguments resolve call remaining) fun _ => True := by
  refine upholds_look (looks_nodesOf .args call) fun arguments => ?_
  generalize List.range arguments.length = indices
  induction indices with
  | nil => exact upholds_pure trivial
  | cons index rest ih =>
    exact (upholds_processArgument_of_subset resolves call index (List.Subset.refl _)).bind
      fun _ _ => ih

end Listed

/-- What a walk does with the references inside an argument. -/
theorem upholds_processArgument
    (resolves : ∀ reference later, Upholds holds (resolve reference later) fun _ => True)
    (call : NodeId) (index : Nat) (remaining : List NodeId) :
    Upholds holds (Expansion.processArgument resolve call index remaining) fun _ => True :=
  upholds_processArgument_of_subset (fun reference later _ => resolves reference later) call index
    (List.Subset.refl remaining)

theorem upholds_ensureArguments
    (resolves : ∀ reference later, Upholds holds (resolve reference later) fun _ => True)
    (call : NodeId) (remaining : List NodeId) :
    Upholds holds (Expansion.ensureArguments resolve call remaining) fun _ => True :=
  upholds_ensureArguments_of_subset (fun reference later _ => resolves reference later) call

end Expanding

section Listing

variable {entry : String} {references : List NodeId}
  (resolves : ∀ depth reference later, reference :: later ⊆ references →
    Upholds holds (Expansion.resolver entry depth reference later) fun _ => True)

include resolves

/-- What a walk does with some of the listed references. -/
theorem upholds_processAll {remaining : List NodeId} (subset : remaining ⊆ references) :
    Upholds holds (Expansion.processAll entry remaining) fun _ => True := by
  induction remaining with
  | nil => exact upholds_pure trivial
  | cons reference later ih =>
    have rest := ih (List.subset_of_cons_subset subset)
    unfold Expansion.processAll
    refine upholds_look (looks_isProcessed reference) fun processed => ?_
    split
    · exact (resolves (later.length + 1) reference later subset).bind fun _ _ => rest
    · exact rest

/-- **The expansion of a list of references** keeps what resolvers keep, if it lasts when notes are
forgotten and remarks are made. -/
theorem upholds_dispatch
    (notes : ∀ {state : WalkState} {processed : List NodeId} (remarks : List Remark), holds state →
      processed.Sublist state.processed →
        holds { state with processed := processed, remarks := remarks }) :
    Upholds holds (Expansion.dispatch entry references) fun _ => True := by
  intro state held
  have forgotten := notes state.remarks held (List.nil_sublist state.processed)
  refine meets_bind_ok rfl ?_
  refine (upholds_processAll resolves (List.Subset.refl references) _ forgotten).bind
    fun _ after both => ?_
  exact meets_bind_ok rfl (meets_bind_ok rfl
    (meets_pure ⟨notes _ both.1 (List.Sublist.refl after.processed), trivial⟩))

end Listing

end Walk

end IfChains
