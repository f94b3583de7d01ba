/-
**What a check that has returned has found.**

A check looks at a table that need not read as a tree. If it returns, the table holds what it was
looking for.

* `Looks.meets`: a step that looks, and what follows if it returns;
* `of_invocation`, `of_nextMember`, `of_continuationOf`, `of_nodesOf`, `of_noArguments`,
  `of_singleArgument`: what each check has found.
-/

import IfChains.Proofs.Chain.Upholding

namespace IfChains

namespace Walk

variable {α β : Type} {state after : WalkState} {node current parent position : Option NodeId}
  {call member argument : NodeId} {entry label : String}

section Rules

variable {walk : Walk α} {next : α → Walk β} {returns : β → WalkState → Prop}
  {stops : WalkFault → WalkState → Prop} {value : β}

/-- **A step that looks**, and what follows if it returns. -/
theorem Looks.meets (looks : Looks walk)
    (returned : ∀ found, walk.outcome state = (.ok found, state) →
      Meets (next found) state returns stops)
    (stopped : ∀ fault, stops fault state) : Meets (walk >>= next) state returns stops := by
  have same := looks state
  rw [Meets, outcome_bind]
  split <;> rename_i outcome <;> split at outcome <;> rename_i found <;> rw [found] at same <;>
    subst same
  · have rest := returned _ found
    rwa [Meets, outcome] at rest
  · cases outcome
  · have rest := returned _ found
    rwa [Meets, outcome] at rest
  · obtain ⟨-, rfl⟩ := Prod.mk.inj outcome
    exact stopped _

/-- A step that looks has returned if what follows has. -/
theorem of_look_bind (looks : Looks walk) (same : (walk >>= next).outcome state = (.ok value, after)) :
    ∃ found, walk.outcome state = (.ok found, state) ∧
      (next found).outcome state = (.ok value, after) := by
  have kept := looks state
  rw [outcome_bind] at same
  split at same <;> rename_i found <;> rw [found] at kept <;> subst kept
  · exact ⟨_, found, same⟩
  · exact nomatch same

end Rules

section Checks

/-- The kind of a node that was looked at. -/
theorem of_kindOf {id : NodeId} {kind : NodeKind}
    (found : (kindOf id).outcome state = (.ok kind, after)) :
    kind = .ofLabel (state.live.label id) :=
  (Except.ok.inj (Prod.mk.inj found).1).symm

/-- What is called was found at a call. -/
theorem of_calleeOf {callee : NodeId} (found : (calleeOf call).outcome state = (.ok callee, after)) :
    state.live.having .func call = [callee] := by
  obtain ⟨live, known, found⟩ := of_look_bind looks_live found
  obtain rfl := Except.ok.inj (Prod.mk.inj known).1
  split at found
  · rename_i callees
    rw [callees, Except.ok.inj (Prod.mk.inj found).1]
  · exact nomatch found

/-- **A call of another node** was found. -/
theorem of_invocation
    (found : (Shape.invocation node current label).outcome state = (.ok call, after)) :
    node = some call ∧ state.live.label call = .call ∧
      ∃ callee, current = some callee ∧ state.live.having .func call = [callee] := by
  cases node with
  | none => exact nomatch found
  | some node =>
    unfold Shape.invocation at found
    obtain ⟨kind, looked, found⟩ := of_look_bind (looks_kindOf node) found
    obtain rfl := of_kindOf looked
    split at found
    · rename_i isCall
      obtain ⟨callee, looked, found⟩ := of_look_bind (looks_calleeOf node) found
      split at found
      · rename_i same
        obtain rfl := Except.ok.inj (Prod.mk.inj found).1
        exact ⟨rfl, NodeKind.ofLabel_eq_call.mp isCall, callee, same.symm, of_calleeOf looked⟩
      · exact nomatch found
    · exact nomatch found

/-- **A member** was found. -/
theorem of_nextMember
    (found : (Shape.nextMember entry parent position).outcome state = (.ok member, after)) :
    parent = some member ∧ ∃ name usage, state.live.label member = .member name usage := by
  cases parent with
  | none => exact nomatch found
  | some parent =>
    unfold Shape.nextMember at found
    obtain ⟨kind, looked, found⟩ := of_look_bind (looks_kindOf parent) found
    obtain rfl := of_kindOf looked
    split at found
    · rename_i isMember
      obtain rfl := Except.ok.inj (Prod.mk.inj found).1
      exact ⟨rfl, NodeKind.ofLabel_eq_member.mp isMember⟩
    · exact nomatch found

/-- **A member that names a continuation** was found. -/
theorem of_continuationOf {continuation : Continuation}
    (found : (Shape.continuationOf entry member).outcome state = (.ok continuation, after)) :
    ∃ name usage, state.live.label member = .member name usage ∧
      Continuation.ofKeyword? name = some continuation := by
  unfold Shape.continuationOf at found
  obtain ⟨name, looked, found⟩ := of_look_bind (looks_memberOf member) found
  obtain ⟨live, known, looked⟩ := of_look_bind looks_live looked
  obtain rfl := Except.ok.inj (Prod.mk.inj known).1
  split at looked
  · rename_i name' usage isMember
    obtain rfl := Except.ok.inj (Prod.mk.inj looked).1
    split at found
    · rename_i named
      obtain rfl := Except.ok.inj (Prod.mk.inj found).1
      exact ⟨_, usage, isMember, named⟩
    · exact nomatch found
  · exact nomatch looked

/-- The positional arguments of a call. -/
theorem outcome_argumentsOf_call (isCall : state.live.label call = .call) :
    (argumentsOf call).outcome state = (.ok (state.live.having .args call), state) := by
  have many : (state.live.label call).arity? .args = some .many := isCall ▸ rfl
  refine (outcome_bind_ok outcome_live).trans ?_
  rw [many]
  rfl

/-- The nodes that were found to take a role take it. -/
theorem of_nodesOf {role : Role} {id : NodeId} {nodes : List NodeId}
    (found : (nodesOf role id).outcome state = (.ok nodes, after)) :
    state.live.having role id = nodes := by
  obtain ⟨live, known, found⟩ := of_look_bind looks_live found
  obtain rfl := Except.ok.inj (Prod.mk.inj known).1
  split at found
  · exact Except.ok.inj (Prod.mk.inj found).1
  · exact nomatch found
  · split at found <;> exact nomatch found

/-- **No positional arguments** were found. -/
theorem of_noArguments (found : (Shape.noArguments call label).outcome state = (.ok (), after)) :
    state.live.having .args call = [] := by
  unfold Shape.noArguments at found
  obtain ⟨arguments, looked, found⟩ := of_look_bind (looks_nodesOf .args call) found
  rw [of_nodesOf looked]
  split at found
  · exact nomatch found
  · rename_i empty
    simpa using empty

/-- **A single positional argument** was found. -/
theorem of_singleArgument
    (found : (Shape.singleArgument call label).outcome state = (.ok argument, after)) :
    state.live.having .args call = [argument] := by
  unfold Shape.singleArgument at found
  obtain ⟨arguments, looked, found⟩ := of_look_bind (looks_nodesOf .args call) found
  rw [of_nodesOf looked]
  split at found
  · rw [Except.ok.inj (Prod.mk.inj found).1]
  · exact nomatch found

end Checks

end Walk

end IfChains
