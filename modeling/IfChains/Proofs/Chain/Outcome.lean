/-
**What walks come to.**

A walk is judged from a state: it meets a pair of conditions if what it returns satisfies the first
one, or the fault it stops with the second one, each together with the state that it leaves.
A check returns a value if its condition holds and stops at a malformed chain if not.

* `Meets.bind`, `Checks.bind`: steps one after the other;
* `checks_invocation`, `checks_noKeywords`, `meets_singleArgument`, `checks_noArguments`,
  `checks_nextMember`, `meets_continuationOf`: when the checks pass, in terms of the tree.
-/

import IfChains.Chain.Expansion
import IfChains.Proofs.Chain.Grammar
import IfChains.Proofs.LiveTree.Reading
import IfChains.Proofs.Syntax.Conforming

namespace IfChains

open IfChains.Tree

namespace Walk

variable {α β : Type}

/-- What a walk comes to from a state. -/
def outcome (walk : Walk α) (state : WalkState) : Except WalkFault α × WalkState :=
  (ExceptT.run walk).run state

/-- What a walk returns from a state meets one condition, or the fault it stops with another one. -/
def Meets (walk : Walk α) (state : WalkState) (returns : α → WalkState → Prop)
    (stops : WalkFault → WalkState → Prop) : Prop :=
  match walk.outcome state with
  | (.ok value, after) => returns value after
  | (.error fault, after) => stops fault after

/-- A walk that looks at a state returns a value under a condition, and stops at a malformed chain
if the condition fails. -/
def Checks (walk : Walk α) (state : WalkState) (passes : Prop) (value : α) : Prop :=
  (passes ∧ walk.outcome state = (.ok value, state)) ∨
    (¬passes ∧ ∃ fault location, walk.outcome state = (.error (.shape fault location), state))

section Rules

variable {walk : Walk α} {next : α → Walk β} {state state' : WalkState} {value : α}
  {returns : β → WalkState → Prop} {stops : WalkFault → WalkState → Prop}

/-- What a walk comes to is what its steps come to, one after the other. -/
theorem outcome_bind : (walk >>= next).outcome state =
    match walk.outcome state with
    | (.ok value, after) => (next value).outcome after
    | (.error fault, after) => (.error fault, after) := by
  simp only [outcome, ExceptT.run_bind, StateT.run_bind]
  rcases (ExceptT.run walk).run state with ⟨result, after⟩
  cases result <;> rfl

/-- A first step that returns. -/
theorem outcome_bind_ok (first : walk.outcome state = (.ok value, state')) :
    (walk >>= next).outcome state = (next value).outcome state' := by
  rw [outcome_bind, first]

/-- A first step that stops. -/
theorem outcome_bind_error {fault : WalkFault}
    (first : walk.outcome state = (.error fault, state')) :
    (walk >>= next).outcome state = (.error fault, state') := by
  rw [outcome_bind, first]

theorem meets_pure {value : β} (met : returns value state) :
    Meets (pure value) state returns stops :=
  met

/-- A first step that returns, and what follows. -/
theorem meets_bind_ok (first : walk.outcome state = (.ok value, state'))
    (rest : Meets (next value) state' returns stops) :
    Meets (walk >>= next) state returns stops := by
  rw [Meets, outcome_bind_ok first]
  exact rest

/-- A step that only looks at the state before a step that returns, and what follows. -/
theorem meets_look {γ : Type} {first : Walk γ} {rest : γ → Walk α} {found : γ}
    (looks : first.outcome state = (.ok found, state))
    (met : Meets (rest found >>= next) state returns stops) :
    Meets ((first >>= rest) >>= next) state returns stops := by
  rw [bind_assoc]
  exact meets_bind_ok looks met

/-- **One step after the other.** -/
theorem Meets.bind {middle : α → WalkState → Prop} (first : Meets walk state middle stops)
    (rest : ∀ value after, middle value after → Meets (next value) after returns stops) :
    Meets (walk >>= next) state returns stops := by
  rw [Meets] at first
  rw [Meets, outcome_bind]
  split at first
  · rename_i value after same
    exact rest value after first
  · exact first

/-- A walk that meets some conditions meets weaker ones. -/
theorem Meets.imp {returns' : α → WalkState → Prop} {stops' : WalkFault → WalkState → Prop}
    (met : Meets walk state returns' stops') {weaker : α → WalkState → Prop}
    (onReturn : ∀ value after, returns' value after → weaker value after)
    (onStop : ∀ fault after, stops' fault after → stops fault after) :
    Meets walk state weaker stops := by
  rw [Meets] at met ⊢
  split at met
  · exact onReturn _ _ met
  · exact onStop _ _ met

/-- A walk that meets some conditions and other ones meets both. -/
theorem Meets.and {returns returns' : α → WalkState → Prop}
    {stops' : WalkFault → WalkState → Prop} (one : Meets walk state returns stops)
    (two : Meets walk state returns' stops') :
    Meets walk state (fun value after => returns value after ∧ returns' value after)
      fun fault after => stops fault after ∧ stops' fault after := by
  rw [Meets] at one two ⊢
  split <;> rename_i same <;> rw [same] at one two <;> exact ⟨one, two⟩

/-- **A check and what follows.** -/
theorem Checks.bind {passes : Prop} (checks : Checks walk state passes value)
    (passed : passes → Meets (next value) state returns stops)
    (failed : ¬passes → ∀ fault location, stops (.shape fault location) state) :
    Meets (walk >>= next) state returns stops := by
  rcases checks with ⟨holds, same⟩ | ⟨fails, fault, location, same⟩
  · exact meets_bind_ok same (passed holds)
  · rw [Meets, outcome_bind_error same]
    exact failed fails fault location

theorem Checks.pass {passes : Prop} (holds : passes)
    (same : walk.outcome state = (.ok value, state)) : Checks walk state passes value :=
  Or.inl ⟨holds, same⟩

theorem checks_failAt {passes : Prop} (fails : ¬passes) (node : Option NodeId)
    (fault : ShapeFault) :
    Checks (failAt node fault) state passes value :=
  Or.inr ⟨fails, fault, _, rfl⟩

/-- A walk that stops at a malformed chain. -/
theorem meets_failAt (node : Option NodeId) (fault : ShapeFault) {next : α → Walk β}
    (stopped : ∀ fault location, stops (.shape fault location) state) :
    Meets (failAt node fault >>= next) state returns stops :=
  stopped fault _

/-- A check after a step that only looks at the state. -/
theorem checks_bind {first : Walk β} {rest : β → Walk α} {found : β} {passes : Prop}
    (looks : first.outcome state = (.ok found, state))
    (checks : Checks (rest found) state passes value) :
    Checks (first >>= rest) state passes value := by
  rw [Checks, outcome_bind_ok looks]
  exact checks

/-- What comes to a value. -/
theorem eq_ok_of_toOption {ε σ : Type} {result : Except ε α × σ} {value : α}
    (returned : result.1.toOption = some value) : result = (.ok value, result.2) := by
  obtain ⟨outcome, after⟩ := result
  cases outcome with
  | error fault => exact nomatch returned
  | ok found =>
    cases returned
    rfl

end Rules

section Kinds

theorem NodeKind.ofLabel_eq_call {label : Label} :
    NodeKind.ofLabel label = .call ↔ label = .call := by
  cases label <;> simp [NodeKind.ofLabel, Label.family]

theorem NodeKind.ofLabel_eq_identifier {label : Label} :
    NodeKind.ofLabel label = .identifier ↔ ∃ name usage, label = .name name usage := by
  cases label <;> simp [NodeKind.ofLabel, Label.family]

theorem NodeKind.ofLabel_eq_member {label : Label} :
    NodeKind.ofLabel label = .member ↔ ∃ name usage, label = .member name usage := by
  cases label <;> simp [NodeKind.ofLabel, Label.family]

/-- An expression is no expression of its own only if it is unpacked. -/
theorem NodeKind.ofLabel_eq_other {label : Label} (expression : label.family = .expression) :
    NodeKind.ofLabel label = .other ↔ label.isStarred = true := by
  cases label <;> simp_all [NodeKind.ofLabel, Label.isStarred, Label.family]

end Kinds

section Looking

variable {state : WalkState} {tree : NumberedTree}

theorem outcome_live : live.outcome state = (.ok state.live, state) := rfl

theorem outcome_parentOf (node : NodeId) :
    (parentOf node).outcome state = (.ok (state.live.parent? node), state) := rfl

theorem outcome_isProcessed (reference : NodeId) :
    (isProcessed reference).outcome state = (.ok (state.processed.contains reference), state) :=
  rfl

theorem outcome_kindOf (reads : state.live.Reads tree) :
    (kindOf tree.tag).outcome state = (.ok (.ofLabel tree.label), state) := by
  rw [← reads.label]
  rfl

/-- What a call calls. -/
theorem outcome_calleeOf {callee : NumberedTree} (reads : state.live.Reads tree)
    (label : tree.label = .call) (alone : tree.having .func = [callee]) :
    (calleeOf tree.tag).outcome state = (.ok callee.tag, state) := by
  have call : state.live.label tree.tag = .call := reads.label.trans label
  have func : state.live.having .func tree.tag = [callee.tag] := by
    rw [reads.having, alone, List.map_singleton]
  refine (outcome_bind_ok outcome_live).trans ?_
  rw [call, func]
  rfl

/-- The nodes that take a role that several may take. -/
theorem outcome_nodesOf {role : Role} (reads : state.live.Reads tree)
    (many : tree.label.arity? role = some .many) :
    (nodesOf role tree.tag).outcome state = (.ok ((tree.having role).map Tree.tag), state) := by
  have several : (state.live.label tree.tag).arity? role = some .many := reads.label ▸ many
  refine (outcome_bind_ok outcome_live).trans ?_
  rw [several, ← reads.having]
  rfl

theorem outcome_argumentsOf (reads : state.live.Reads tree) (label : tree.label = .call) :
    (argumentsOf tree.tag).outcome state = (.ok ((tree.having .args).map Tree.tag), state) :=
  outcome_nodesOf reads (label ▸ rfl)

theorem outcome_keywordsOf (reads : state.live.Reads tree) (label : tree.label = .call) :
    (keywordsOf tree.tag).outcome state = (.ok ((tree.having .keywords).map Tree.tag), state) :=
  outcome_nodesOf reads (label ▸ rfl)

theorem outcome_memberOf {name : String} {usage : Usage} (reads : state.live.Reads tree)
    (label : tree.label = .member name usage) :
    (memberOf tree.tag).outcome state = (.ok name, state) := by
  have member : state.live.label tree.tag = .member name usage := reads.label.trans label
  refine (outcome_bind_ok outcome_live).trans ?_
  rw [member]
  rfl

end Looking

section Replacing

variable {state : WalkState} {old new : NodeId} {live : LiveTree}

/-- Putting a node in the place of another one that is attached. -/
theorem outcome_replace (replaced : state.live.replace? old new = some live) :
    (replace old new).outcome state = (.ok (), { state with live := live }) := by
  have looks : (get : Walk WalkState).outcome state = (.ok state, state) := rfl
  refine (outcome_bind_ok looks).trans ?_
  rw [replaced]
  rfl

/-- A node in the place of which nothing can be put. -/
theorem outcome_replace_none (refused : state.live.replace? old new = none) :
    (replace old new).outcome state =
      (.error (.detached (state.live.label old).typeName), state) := by
  have looks : (get : Walk WalkState).outcome state = (.ok state, state) := rfl
  refine (outcome_bind_ok looks).trans ?_
  rw [refused]
  rfl

end Replacing

section Checking

variable {state : WalkState} {frame : Frame NodeId} {tree : NumberedTree}

/-- The callee of a call is in the hole of its frame exactly if the hole has that role. -/
theorem tag_callee_eq_iff {callee : NumberedTree} (distinct : (frame.fill tree).tags.Nodup)
    (alone : (frame.fill tree).having .func = [callee]) :
    callee.tag = tree.tag ↔ frame.role = .func := by
  have hole : (frame.role, tree) ∈ (frame.fill tree).children :=
    List.mem_append_right _ List.mem_cons_self
  have inside : (Role.func, callee) ∈ (frame.fill tree).children :=
    mem_having.mp (by rw [alone]; exact List.mem_singleton_self callee)
  constructor
  · intro same
    obtain rfl : callee = tree :=
      eq_of_tag_eq distinct (child_mem_preorder inside) (child_mem_preorder hole) same
    exact role_eq_of_nodup distinct hole inside
  · intro role
    rw [role] at hole
    have member := mem_having.mpr hole
    rw [alone, List.mem_singleton] at member
    rw [member]

/-- **A node is a call of what is in its hole.** -/
theorem checks_invocation (label : String) (reads : state.live.Reads (frame.fill tree))
    (conforms : (frame.fill tree).Conforms) (distinct : (frame.fill tree).tags.Nodup) :
    Checks (Shape.invocation (some frame.tag) (some tree.tag) label) state
      (frame.label = .call ∧ frame.role = .func) frame.tag := by
  have kind : (kindOf frame.tag).outcome state = (.ok (.ofLabel frame.label), state) :=
    @outcome_kindOf state (frame.fill tree) reads
  have labels : (frame.fill tree).label = frame.label := rfl
  unfold Shape.invocation
  refine checks_bind kind ?_
  by_cases call : frame.label = .call
  · have field : (Role.func, Arity.one) ∈ (frame.fill tree).label.fields := by
      rw [labels, call]
      exact List.mem_cons_self
    obtain ⟨callee, alone⟩ := conforms.exists_single field
    have called : (calleeOf frame.tag).outcome state = (.ok callee.tag, state) :=
      @outcome_calleeOf state (frame.fill tree) callee reads call alone
    rw [if_pos (NodeKind.ofLabel_eq_call.mpr call)]
    refine checks_bind called ?_
    by_cases role : frame.role = .func
    · rw [(tag_callee_eq_iff distinct alone).mpr role, if_pos rfl]
      exact .pass ⟨call, role⟩ rfl
    · have other : ¬some callee.tag = some tree.tag := fun same =>
        role ((tag_callee_eq_iff distinct alone).mp (Option.some.inj same))
      rw [if_neg other]
      exact checks_failAt (fun both => role both.2) _ _
  · rw [if_neg fun kind => call (NodeKind.ofLabel_eq_call.mp kind)]
    exact checks_failAt (fun both => call both.1) _ _

/-- A call has no keyword arguments. -/
theorem checks_noKeywords (label : String) (reads : state.live.Reads tree)
    (call : tree.label = .call) :
    Checks (Shape.noKeywords tree.tag label) state (tree.having .keywords = []) () := by
  refine checks_bind (outcome_keywordsOf reads call) ?_
  cases tree.having .keywords with
  | nil => exact .pass rfl rfl
  | cons keyword rest => exact checks_failAt (List.cons_ne_nil _ _) _ _

/-- A call has no positional arguments. -/
theorem checks_noArguments (label : String) (reads : state.live.Reads tree)
    (call : tree.label = .call) :
    Checks (Shape.noArguments tree.tag label) state (tree.having .args = []) () := by
  refine checks_bind (outcome_argumentsOf reads call) ?_
  cases tree.having .args with
  | nil => exact .pass rfl rfl
  | cons argument rest => exact checks_failAt (List.cons_ne_nil _ _) _ _

/-- The chain goes on with the node around a position if that is a member. -/
theorem checks_nextMember (entry : String) (position : Option NodeId)
    (reads : state.live.Reads tree) :
    Checks (Shape.nextMember entry (some tree.tag) position) state
      (∃ name usage, tree.label = .member name usage) tree.tag := by
  refine checks_bind (outcome_kindOf reads) ?_
  by_cases member : ∃ name usage, tree.label = .member name usage
  · rw [if_pos (NodeKind.ofLabel_eq_member.mpr member)]
    exact .pass member rfl
  · rw [if_neg fun kind => member (NodeKind.ofLabel_eq_member.mp kind)]
    exact checks_failAt member _ _

variable {β : Type} {returns : β → WalkState → Prop} {stops : WalkFault → WalkState → Prop}

/-- The continuation that a member names. -/
theorem meets_continuationOf {name : String} {usage : Usage} {next : Continuation → Walk β}
    (entry : String) (reads : state.live.Reads tree) (label : tree.label = .member name usage)
    (passed : ∀ continuation, Continuation.ofKeyword? name = some continuation →
      Meets (next continuation) state returns stops)
    (failed : Continuation.ofKeyword? name = none →
      ∀ fault location, stops (.shape fault location) state) :
    Meets (Shape.continuationOf entry tree.tag >>= next) state returns stops := by
  refine meets_look (outcome_memberOf reads label) ?_
  cases known : Continuation.ofKeyword? name with
  | some continuation => exact passed continuation known
  | none => exact failed known _ _

/-- **The only positional argument of a call**, an expression of its own. -/
theorem meets_singleArgument {next : NodeId → Walk β} (label : String)
    (reads : state.live.Reads tree) (conforms : tree.Conforms) (call : tree.label = .call)
    (passed : ∀ argument, tree.having .args = [argument] → argument.isStarred = false →
      Meets (next argument.tag) state returns stops)
    (failed : isSingle (tree.having .args) = false →
      ∀ fault location, stops (.shape fault location) state) :
    Meets (do
      let argument ← Shape.singleArgument tree.tag label
      Shape.expressionLike argument tree.tag label
      next argument) state returns stops := by
  refine meets_look (outcome_argumentsOf reads call) ?_
  rcases arguments : tree.having .args with _ | ⟨argument, _ | ⟨second, rest⟩⟩
  · rw [arguments] at failed
    exact failed rfl _ _
  · rw [arguments] at failed
    have inside : (Role.args, argument) ∈ tree.children :=
      mem_having.mp (by rw [arguments]; exact List.mem_singleton_self argument)
    have readsArgument := reads.of_mem (child_mem_preorder inside)
    have family : argument.label.family = .expression := by
      have known := conforms.families _ inside
      rwa [call] at known
    have checks : Checks (Shape.expressionLike (some argument.tag) tree.tag label) state
        (argument.isStarred = false) () := by
      refine checks_bind (outcome_kindOf readsArgument) ?_
      beta_reduce
      cases starred : argument.isStarred with
      | false =>
        rw [if_neg fun other =>
          Bool.false_ne_true (starred.symm.trans ((NodeKind.ofLabel_eq_other family).mp other))]
        exact .pass rfl rfl
      | true =>
        rw [if_pos ((NodeKind.ofLabel_eq_other family).mpr starred)]
        exact checks_failAt Bool.noConfusion _ _
    refine checks.bind (passed argument arguments) fun starred => failed ?_
    rw [isSingle, (Bool.not_eq_false _).mp starred, Bool.not_true]
  · rw [arguments] at failed
    exact failed rfl _ _

end Checking

end Walk

end IfChains
