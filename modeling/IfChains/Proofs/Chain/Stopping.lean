/-
**The faults that a walk may stop with.**

What only looks at a node stops where it takes the node for one of another type, and a check of a
chain also where the chain is malformed. Making nodes never stops. So the faults of longer walks are
those of their steps.

* `Stops`: a walk stops with faults of some kind only; `Stops.bind`: one walk after the other;
* `Misreads`, `Rejects`: kinds of faults with which looks and checks may stop;
* `stops_nodesOf`, `stops_invocation`, `stops_conditional`, …: what each step may stop with.
-/

import IfChains.Proofs.Chain.Outcome

namespace IfChains

namespace Walk

variable {α β : Type} {may : WalkFault → Prop} {walk : Walk α} {next : α → Walk β}

/-- A walk stops with faults of some kind only. -/
def Stops (may : WalkFault → Prop) (walk : Walk α) : Prop :=
  ∀ state fault, (walk.outcome state).1 = .error fault → may fault

/-- Among the faults of some kind are those of taking a node for one of another type. -/
class Misreads (may : WalkFault → Prop) : Prop where
  misread : ∀ typeName field, may (.misread typeName field)
  noList : ∀ typeName, may (.noList typeName)

/-- Among the faults of some kind is also that a chain is malformed. -/
class Rejects (may : WalkFault → Prop) : Prop extends Misreads may where
  shape : ∀ fault location, may (.shape fault location)

section Rules

theorem stops_pure (value : α) : Stops may (pure value) :=
  fun _ _ same => nomatch same

theorem stops_throw {fault : WalkFault} (possible : may fault) :
    Stops may (throw fault : Walk α) :=
  fun _ _ same => Except.error.inj same ▸ possible

/-- What would follow a walk that stops does not matter. -/
theorem stops_throw_bind {fault : WalkFault} (possible : may fault) :
    Stops may ((throw fault : Walk α) >>= next) :=
  stops_throw possible

/-- **One walk after the other.** -/
theorem Stops.bind (first : Stops may walk) (rest : ∀ value, Stops may (next value)) :
    Stops may (walk >>= next) := by
  intro state fault same
  rcases come : walk.outcome state with ⟨other | value, after⟩
  · rw [outcome_bind_error come] at same
    refine first state fault ?_
    rw [come, Except.error.inj same]
  · rw [outcome_bind_ok come] at same
    exact rest value after fault same

end Rules

section Making

theorem stops_make (label : Label) (slots : List (Role × NodeId)) :
    Stops may (make label slots) :=
  fun _ _ same => nomatch same

theorem stops_branch (exprs : List NodeId) : Stops may (Synthesis.branch exprs) := by
  unfold Synthesis.branch
  split
  · exact stops_make _ _
  · exact stops_pure _
  · exact (stops_make _ _).bind fun _ => (stops_make _ _).bind fun _ =>
      (stops_make _ _).bind fun _ => stops_make _ _

/-- Making a conditional expression never stops. -/
theorem stops_conditional (branches : BranchSet NodeId) (condition : NodeId) :
    Stops may (Synthesis.conditional branches condition) :=
  (stops_branch _).bind fun _ => (stops_branch _).bind fun _ => stops_make _ _

/-- Only a node that is not attached cannot be replaced. -/
theorem stops_replace (detached : ∀ typeName, may (.detached typeName)) (old new : NodeId) :
    Stops may (replace old new) := by
  intro state fault same
  cases replaced : state.live.replace? old new with
  | none =>
    rw [outcome_replace_none replaced] at same
    exact Except.error.inj same ▸ detached _
  | some live =>
    rw [outcome_replace replaced] at same
    cases same

end Making

section Looking

theorem stops_live : Stops may live :=
  fun _ _ same => nomatch same

theorem stops_kindOf (node : NodeId) : Stops may (kindOf node) :=
  fun _ _ same => nomatch same

theorem stops_parentOf (node : NodeId) : Stops may (parentOf node) :=
  fun _ _ same => nomatch same

theorem stops_isProcessed (reference : NodeId) : Stops may (isProcessed reference) :=
  fun _ _ same => nomatch same

variable [Misreads may]

theorem stops_calleeOf (call : NodeId) : Stops may (calleeOf call) := by
  refine stops_live.bind fun live => ?_
  split
  · exact stops_pure _
  · exact stops_throw (Misreads.misread _ _)

theorem stops_nodesOf (role : Role) (node : NodeId) : Stops may (nodesOf role node) := by
  refine stops_live.bind fun live => ?_
  split
  · exact stops_pure _
  · exact stops_throw (Misreads.misread _ _)
  · split <;> exact stops_throw (Misreads.noList _)

theorem stops_memberOf (member : NodeId) : Stops may (memberOf member) := by
  refine stops_live.bind fun live => ?_
  split
  · exact stops_pure _
  · exact stops_throw (Misreads.misread _ _)

end Looking

section Checks

variable [Rejects may]

theorem stops_failAt (node : Option NodeId) (fault : ShapeFault) :
    Stops may (failAt node fault : Walk α) :=
  fun _ _ same => Except.error.inj same ▸ Rejects.shape _ _

theorem stops_invocation (node current : Option NodeId) (label : String) :
    Stops may (Shape.invocation node current label) := by
  unfold Shape.invocation
  split
  · exact stops_failAt _ _
  · refine (stops_kindOf _).bind fun kind => ?_
    split
    · refine (stops_calleeOf _).bind fun callee => ?_
      split
      · exact stops_pure _
      · exact stops_failAt _ _
    · exact stops_failAt _ _

theorem stops_noKeywords (call : NodeId) (label : String) :
    Stops may (Shape.noKeywords call label) := by
  refine (stops_nodesOf .keywords call).bind fun keywords => ?_
  split
  · exact stops_failAt _ _
  · exact stops_pure _

theorem stops_noArguments (call : NodeId) (label : String) :
    Stops may (Shape.noArguments call label) := by
  refine (stops_nodesOf .args call).bind fun arguments => ?_
  split
  · exact stops_failAt _ _
  · exact stops_pure _

theorem stops_singleArgument (call : NodeId) (label : String) :
    Stops may (Shape.singleArgument call label) := by
  refine (stops_nodesOf .args call).bind fun arguments => ?_
  split
  · exact stops_pure _
  · exact stops_failAt _ _

theorem stops_expressionLike (argument call : Option NodeId) (label : String) :
    Stops may (Shape.expressionLike argument call label) := by
  unfold Shape.expressionLike
  cases argument with
  | none => exact stops_failAt _ _
  | some node =>
    refine (stops_kindOf node).bind fun kind => ?_
    beta_reduce
    split
    · exact stops_failAt _ _
    · exact stops_pure _

theorem stops_nextMember (entry : String) (parent position : Option NodeId) :
    Stops may (Shape.nextMember entry parent position) := by
  unfold Shape.nextMember
  split
  · refine (stops_kindOf _).bind fun kind => ?_
    split
    · exact stops_pure _
    · exact stops_failAt _ _
  · exact stops_failAt _ _

theorem stops_continuationOf (entry : String) (member : NodeId) :
    Stops may (Shape.continuationOf entry member) := by
  refine (stops_memberOf member).bind fun name => ?_
  split
  · exact stops_pure _
  · exact stops_failAt _ _

end Checks

end Walk

end IfChains
