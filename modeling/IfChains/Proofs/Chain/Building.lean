/-
**What walks make of a table.**

A walk along chains expands them: whatever references it is given, and whether it returns or stops,
the table that it leaves has come by expansions from the table that it found. This rests on what the
branches of a chain hold. The last expression of a branch, which is its value, is not unpacked: `then`
and `else_` check it, and `then_do` and `else_do` put their arguments before it.

* `Fit`, `Fit.push`, `Fit.pushDiscarded`: branches that can be made into a conditional expression;
* `expands_conditional`: the conditional expression is one that an expansion makes;
* `expands_processChain`: a climb comes to a call and to a new node that is to take its place;
* `expands_dispatch`: expanding the chains of a list leads from table to table by expansions;
* `lasting_composes`: what walks make holds expressions;
* `Composes.conforming`: so a tree in the table conforms if the tree from the beginning did.
-/

import IfChains.Proofs.Chain.Expanded
import IfChains.Proofs.Chain.Lasting
import IfChains.Proofs.Syntax.Conforming

namespace IfChains

open IfChains.Tree IfChains.Walk

namespace LiveTree

variable {start : LiveTree}

section Branches

/-- The last expression of a branch, which is its value, is not unpacked. -/
def Valued (start : LiveTree) (exprs : List NodeId) : Prop :=
  ∀ last ∈ exprs.getLast?, start.Plain last

/-- Branches that can be made into a conditional expression. -/
def Fit (start : LiveTree) (branches : BranchSet NodeId) : Prop :=
  ∀ branch, start.Valued (branches.get branch)

theorem fit_empty : start.Fit {} := fun branch => by
  cases branch <;> exact fun _ absent => absurd absent (Option.not_mem_none _)

/-- Expressions before a value. -/
theorem valued_append (exprs : List NodeId) {last : NodeId} (plain : start.Plain last) :
    start.Valued (exprs ++ [last]) := by
  intro other isLast
  rw [List.getLast?_concat] at isLast
  exact Option.mem_some.mp isLast ▸ plain

variable {branches : BranchSet NodeId} {expr : NodeId}

/-- Branches of which one is replaced. -/
theorem Fit.set (fit : start.Fit branches) (branch : Branch) {exprs : List NodeId}
    (valued : start.Valued exprs) : start.Fit (branches.set branch exprs) := by
  intro other
  by_cases same : other = branch
  · subst same
    rw [BranchSet.get_set]
    exact valued
  · obtain rfl : other = branch.other := by
      cases other <;> cases branch <;> first | rfl | exact absurd rfl same
    rw [BranchSet.get_set_other]
    exact fit branch.other

/-- A value is pushed. -/
theorem Fit.push (fit : start.Fit branches) (branch : Branch) (plain : start.Plain expr) :
    start.Fit (branches.push branch expr) :=
  fit.set branch (valued_append _ plain)

/-- **Expressions are put before the value**, unpacked ones as well. -/
theorem Fit.pushDiscarded (fit : start.Fit branches) (branch : Branch) (exprs : List NodeId)
    {undefined : NodeId} (new : start.size ≤ undefined) :
    start.Fit (branches.pushDiscarded branch exprs undefined) := by
  refine fit.set branch (valued_append _ ?_)
  rw [List.getLastD_eq_getLast?]
  cases last : (branches.get branch).getLast? with
  | none => exact plain_of_new new
  | some value => exact fit branch value last

/-- A conditional expression becomes the alternate branch. -/
theorem Fit.replaceAlternate (fit : start.Fit branches) (plain : start.Plain expr) :
    start.Fit (branches.replaceAlternate expr) :=
  fit.set .alternate (valued_append [] plain)

end Branches

/-- A walk keeps that the table has come by expansions, and returns something of some kind. -/
abbrev Expands {α : Type} (start : LiveTree) (walk : Walk α) (returns : α → Prop) : Prop :=
  Upholds (fun state => start.Expanded state.live) walk returns

section Making

/-- **Making a node** that an expansion makes. -/
theorem expands_make {label : Label} {slots : List (Role × NodeId)}
    (makes : start.Makes label slots) : start.Expands (make label slots) (start.size ≤ ·) :=
  fun _ expanded => ⟨expanded.push makes, expanded.size⟩

/-- A constant. -/
theorem expands_constant (constant : Constant) :
    start.Expands (make (.constant constant) []) (start.size ≤ ·) :=
  expands_make fun _ absent => absurd absent List.not_mem_nil

/-- A sequence of several expressions, the last of which is its value. -/
theorem expands_sequence {exprs : List NodeId} (valued : start.Valued exprs)
    (several : 2 ≤ exprs.length) : start.Expands (sequence exprs) (start.size ≤ ·) := by
  have elements : start.Makes (.tuple .load) (exprs.map fun expr => (.elts, expr)) := by
    refine ⟨?_, fun slot member => ?_, fun slot last => ?_⟩
    · rwa [List.length_map]
    · obtain ⟨expr, -, rfl⟩ := List.mem_map.mp member
      rfl
    · rw [List.getLast?_map] at last
      obtain ⟨expr, isLast, rfl⟩ := Option.map_eq_some_iff.mp last
      exact valued expr isLast
  refine (expands_make elements).bind fun display new => ?_
  refine (expands_constant _).bind fun one newOne => ?_
  have minus : start.Makes (.unaryOp .minus) [(.operand, one)] :=
    List.forall_mem_singleton.mpr (plain_of_new newOne)
  refine (expands_make minus).bind fun last newLast => expands_make ?_
  exact List.forall_mem_cons.mpr ⟨plain_of_new new,
    List.forall_mem_singleton.mpr (plain_of_new newLast)⟩

/-- The expression of a branch. -/
theorem expands_branch {exprs : List NodeId} (valued : start.Valued exprs) :
    start.Expands (Synthesis.branch exprs) start.Plain := by
  unfold Synthesis.branch
  split
  · exact (expands_constant .none).imp fun _ new => plain_of_new new
  · exact upholds_pure (valued _ rfl)
  · rename_i single
    refine (expands_sequence valued ?_).imp fun _ new => plain_of_new new
    rcases exprs with _ | ⟨first, _ | ⟨second, rest⟩⟩
    · contradiction
    · exact absurd rfl (single first)
    · simp

/-- **The conditional expression of a chain**, new and without unpacked parts. -/
theorem expands_conditional {branches : BranchSet NodeId} {condition : NodeId}
    (fit : start.Fit branches) (plain : start.Plain condition) :
    start.Expands (Synthesis.conditional branches condition) (start.size ≤ ·) := by
  refine (expands_branch (fit .consequent)).bind fun consequent isConsequent => ?_
  refine (expands_branch (fit .alternate)).bind fun alternate isAlternate => ?_
  have parts : start.Makes .ifExp
      [(.test, condition), (.body, consequent), (.orelse, alternate)] :=
    List.forall_mem_cons.mpr ⟨plain, List.forall_mem_cons.mpr ⟨isConsequent,
      List.forall_mem_singleton.mpr isAlternate⟩⟩
  exact expands_make parts

end Making

section Looking

variable {α : Type} {found : α → Prop}

/-- What is found to be a call was one from the start. -/
theorem expands_invocation (node current : Option NodeId) (label : String) :
    start.Expands (Shape.invocation node current label) fun call => start.label call = .call :=
  upholds_found (looks_invocation node current label) fun _ _ expanded found =>
    expanded.label_of_call (of_invocation found).2.1

/-- An expression of its own is not unpacked. -/
theorem expands_expressionLike (argument call : NodeId) (label : String) :
    start.Expands (Shape.expressionLike argument call label) fun _ => start.Plain argument := by
  refine upholds_found (looks_expressionLike argument call label) fun state _ expanded found => ?_
  refine expanded.plain_of_label ?_
  unfold Shape.expressionLike at found
  obtain ⟨kind, looked, found⟩ := of_look_bind (looks_kindOf argument) found
  obtain rfl := of_kindOf looked
  beta_reduce at found
  split at found
  · exact nomatch found
  · rename_i other
    generalize state.live.label argument = label at other
    cases label with
    | starred usage => exact absurd rfl other
    | _ => rfl

/-- **The only argument of a call**, which is an expression of its own. -/
theorem expands_singleArgument {next : NodeId → Walk α} (call : NodeId) (label : String)
    (rest : ∀ argument, start.Plain argument → start.Expands (next argument) found) :
    start.Expands (do
      let argument ← Shape.singleArgument call label
      Shape.expressionLike argument call label
      next argument) found :=
  upholds_look (looks_singleArgument call label) fun argument =>
    (expands_expressionLike argument call label).bind fun _ plain => rest argument plain

end Looking

section Expanding

variable {resolve : Expansion.Resolver}
  (resolves : ∀ reference later, start.Expands (resolve reference later) fun _ => True)
  (entry : String)

section Resolver

include resolves

/-- **A climb** comes to a call, and to a new node that is to take its place. -/
theorem expands_processChain (remaining : List NodeId) (steps : Nat) (position condition : NodeId)
    (branches : BranchSet NodeId) (fit : start.Fit branches) (plain : start.Plain condition) :
    start.Expands
      (Expansion.processChain resolve entry steps position condition branches remaining)
      fun result => start.label result.top = .call ∧ start.size ≤ result.expr := by
  induction steps generalizing position condition branches with
  | zero => exact upholds_throw _
  | succ steps ih =>
    unfold Expansion.processChain
    refine upholds_look (looks_parentOf position) fun parent => ?_
    refine upholds_look (looks_nextMember entry parent position) fun member => ?_
    refine upholds_look (looks_continuationOf entry member) fun continuation => ?_
    refine upholds_look (looks_parentOf member) fun above => ?_
    refine (expands_invocation above member _).bind fun call isCall => ?_
    split
    · refine upholds_look (looks_noArguments call _) fun _ => ?_
      refine upholds_look (looks_noKeywords call _) fun _ => ?_
      exact (expands_conditional fit plain).bind fun expr new => upholds_pure ⟨isCall, new⟩
    refine (upholds_ensureArguments resolves call remaining).bind fun _ _ => ?_
    refine upholds_look (looks_noKeywords call _) fun _ => ?_
    split
    · refine expands_singleArgument call _ fun argument isArgument => ?_
      refine (ih call argument {} fit_empty isArgument).bind fun nested both => ?_
      exact (expands_conditional (fit.replaceAlternate (plain_of_new both.2)) plain).bind
        fun expr new => upholds_pure ⟨both.1, new⟩
    split
    · split
      · refine upholds_look (looks_pure _) fun branch => ?_
        exact expands_singleArgument call _ fun argument isArgument =>
          ih call condition _ (fit.push branch isArgument) plain
      · exact upholds_throw_bind _
    · split
      · refine upholds_look (looks_pure _) fun branch => ?_
        refine upholds_look (looks_nodesOf .args call) fun arguments => ?_
        exact (expands_constant .none).bind fun undefined new =>
          ih call condition _ (fit.pushDiscarded branch arguments new) plain
      · exact upholds_throw_bind _

/-- The expansion of one reference. -/
theorem expands_expandReference (reference : NodeId) (remaining : List NodeId) :
    start.Expands (Expansion.expandReference resolve entry reference remaining) fun _ => True := by
  unfold Expansion.expandReference
  refine upholds_look (looks_isProcessed reference) fun processed => ?_
  split
  · exact upholds_pure trivial
  refine upholds_look (looks_parentOf reference) fun parent => ?_
  refine (expands_invocation parent reference entry).bind fun call isCall => ?_
  refine (upholds_ensureArguments resolves call remaining).bind fun _ _ => ?_
  refine upholds_look (looks_noKeywords call entry) fun _ => ?_
  refine expands_singleArgument call entry fun condition plain => ?_
  have climb : start.Expands (Expansion.walkChain resolve entry call condition remaining)
      fun result => start.label result.top = .call ∧ start.size ≤ result.expr :=
    upholds_look looks_live fun live =>
      expands_processChain resolves entry remaining live.size call condition {} fit_empty plain
  refine climb.bind fun result ⟨isTop, new⟩ => ?_
  have replaces : start.Expands (replace result.top result.expr) fun _ => True := by
    intro state expanded
    cases replaced : state.live.replace? result.top result.expr with
    | none =>
      rw [Meets, outcome_replace_none replaced]
      exact expanded
    | some live =>
      rw [Meets, outcome_replace replaced]
      exact ⟨expanded.replace? isTop new replaced, trivial⟩
  refine replaces.bind fun _ _ state expanded => ?_
  exact meets_bind_ok rfl (meets_bind_ok outcome_live
    (meets_bind_ok rfl (meets_pure ⟨expanded, trivial⟩)))

end Resolver

theorem expands_resolver (depth : Nat) (reference : NodeId) (remaining : List NodeId) :
    start.Expands (Expansion.resolver entry depth reference remaining) fun _ => True := by
  induction depth generalizing reference remaining with
  | zero => exact upholds_throw _
  | succ depth ih => exact expands_expandReference ih entry reference remaining

/-- **Expanding the chains of a list** leads from table to table by expansions. -/
theorem expands_dispatch (references : List NodeId) :
    start.Expands (Expansion.dispatch entry references) fun _ => True :=
  upholds_dispatch (fun depth reference later _ => expands_resolver entry depth reference later)
    fun _ expanded _ => expanded

end Expanding

section Kinds

variable {live live' : LiveTree} {id : NodeId}

/-- An expression: a node that was made, or one that was an expression from the start. -/
def IsExpression (start : LiveTree) (id : NodeId) : Prop :=
  start.size ≤ id ∨ (start.label id).family = .expression

/-- A table in which what was made is of the kinds that walks make, and holds expressions. The
arguments of calls are expressions. -/
structure Composes (start live : LiveTree) : Prop where
  size : start.size ≤ live.size
  label : ∀ id < start.size, live.label id = start.label id
  arguments : ∀ id, start.label id = .call → ∀ slot ∈ live.slots id, slot.1 = .args →
    start.IsExpression slot.2
  made : ∀ id < live.size, start.size ≤ id →
    Composed (live.label id) ((live.slots id).map Prod.fst) ∧
      ∀ slot ∈ live.slots id, start.IsExpression slot.2

/-- What was a call at some time was one from the start. -/
theorem Composes.label_of_call (composes : start.Composes live) (isCall : live.label id = .call) :
    start.label id = .call := by
  have known : id < live.size := lt_size_of_label (by simp [isCall])
  rcases Nat.lt_or_ge id start.size with old | new
  · exact (composes.label id old).symm.trans isCall
  · exact absurd isCall (kind_of_composed (composes.made id known new).1).2.1

/-- An expression is one in the table. -/
theorem Composes.family (composes : start.Composes live) (known : id < live.size)
    (expression : start.IsExpression id) : (live.label id).family = .expression := by
  rcases Nat.lt_or_ge id start.size with old | new
  · rw [composes.label id old]
    exact expression.resolve_left (Nat.not_le_of_lt old)
  · exact (kind_of_composed (composes.made id known new).1).1

/-- A new node in the place of another one takes its role and is an expression. -/
theorem Composes.replace? (composes : start.Composes live) {old new : NodeId}
    (fresh : start.size ≤ new) (replaced : live.replace? old new = some live') :
    start.Composes live' := by
  obtain ⟨size, label, parent, swapped, others⟩ := exists_slots_of_replace? replaced
  obtain ⟨first, role, rest, held, held'⟩ := exists_of_swapSlot swapped
  have roles : ∀ id, (live'.slots id).map Prod.fst = (live.slots id).map Prod.fst := by
    intro id
    by_cases same : id = parent
    · rw [same, held, held', List.map_append, List.map_append, List.map_cons, List.map_cons]
    · rw [others id same]
  have before : ∀ {id : NodeId}, ∀ slot ∈ live'.slots id,
      slot ∈ live.slots id ∨ start.IsExpression slot.2 := by
    intro id slot member
    by_cases same : id = parent
    · subst same
      rw [held'] at member
      rw [held]
      rcases List.mem_append.mp member with early | rest
      · exact Or.inl (List.mem_append_left _ early)
      · rcases List.mem_cons.mp rest with rfl | late
        · exact Or.inr (Or.inl fresh)
        · exact Or.inl (List.mem_append_right _ (List.mem_cons_of_mem _ late))
    · exact Or.inl (others id same ▸ member)
  refine ⟨size ▸ composes.size, fun id old => (label id).trans (composes.label id old),
    fun id isCall slot member role => ?_, fun id known new => ?_⟩
  · exact (before slot member).elim (composes.arguments id isCall slot · role) fun fits => fits
  · obtain ⟨composed, fitting⟩ := composes.made id (size ▸ known) new
    rw [label, roles]
    exact ⟨composed, fun slot member => (before slot member).elim (fitting slot) fun fits => fits⟩

/-- **What walks make holds expressions.** -/
theorem lasting_composes (start : LiveTree) :
    Lasting (fun state => start.Composes state.live) (start.size ≤ ·) start.IsExpression where
  makes {state label slots} composed fitting held := by
    refine ⟨⟨?_, fun id old => ?_, fun id isCall => ?_, fun id known new => ?_⟩, held.size⟩
    · exact Nat.le_trans held.size (size_push .. ▸ Nat.le_succ _)
    · rw [label_eq, content?_push_old label none slots (Nat.lt_of_lt_of_le old held.size),
        ← label_eq]
      exact held.label id old
    · have old : id < start.size := lt_size_of_label (by simp [isCall])
      rw [slots_eq, content?_push_old label none slots (Nat.lt_of_lt_of_le old held.size),
        ← slots_eq]
      exact held.arguments id isCall
    · rw [size_push] at known
      rcases Nat.lt_succ_iff_lt_or_eq.mp known with old | rfl
      · rw [label_eq, slots_eq, content?_push_old label none slots old, ← label_eq, ← slots_eq]
        exact held.made id old new
      · rw [label_eq, slots_eq, content?_push_new]
        exact ⟨composed, fitting⟩
  fits _ new := Or.inl new
  arguments before isCall held among :=
    held.arguments _ (before.label_of_call isCall) _ (mem_having.mp among) rfl
  replaces held fresh replaced := held.replace? fresh replaced
  notes _ _ held := held

/-- What walks make holds expressions, in the roles of its kind. -/
theorem childFamily_of_composed {label : Label} {roles : List Role}
    (composed : Composed label roles) : ∀ role ∈ roles, label.childFamily role = .expression := by
  cases composed with
  | display count =>
    intro role member
    rw [List.eq_of_mem_replicate member]
    rfl
  | _ => decide

/-- A node of a kind that walks make has the children of its kind if they are expressions. -/
theorem conforms_of_composed {node : NumberedTree}
    (composed : Composed node.label (node.children.map Prod.fst))
    (expressions : ∀ child ∈ node.children, child.2.label.family = .expression) :
    node.Conforms := by
  have families : ∀ child ∈ node.children,
      child.2.label.family = node.label.childFamily child.1 := fun child member =>
    (expressions child member).trans
      (childFamily_of_composed composed child.1 (List.mem_map_of_mem member)).symm
  obtain ⟨tag, label, children⟩ := node
  -- Each role is taken by one child, but for the elements of a display.
  have single : label.fields = (children.map Prod.fst).map (fun role => (role, Arity.one)) →
      (Tree.node tag label children).Conforms := fun fields =>
    conforms_of_single (fields.trans List.map_map) families
  change Composed label (children.map Prod.fst) at composed
  generalize present : children.map Prod.fst = roles at composed single
  cases composed with
  | display count =>
    refine ⟨fun field member => ?_, fun child member => ?_, families⟩
    · obtain rfl := List.mem_singleton.mp member
      rfl
    · have among : child.1 ∈ List.replicate count Role.elts :=
        present ▸ List.mem_map_of_mem member
      exact List.mem_singleton.mpr (List.eq_of_mem_replicate among)
  | _ => exact single rfl

/-- **A tree in the table conforms** if the tree from the beginning did. -/
theorem Composes.conforming (composes : start.Composes live) (expanded : start.Expanded live)
    (old : ∀ id < start.size, ∃ node : NumberedTree, start.Reads node ∧ node.tag = id ∧
      node.Conforms) {tree : NumberedTree} (reads : live.Reads tree) : tree.Conforming := by
  intro node member
  have readsNode := reads.of_mem member
  have readsChild : ∀ child ∈ node.children, live.Reads child.2 := fun child inside =>
    readsNode.of_mem (child_mem_preorder inside)
  have known : ∀ child ∈ node.children, child.2.tag < live.size := fun child inside =>
    (readsChild child inside).lt_size (tag_mem_tags child.2)
  rcases Nat.lt_or_ge node.tag start.size with isOld | isNew
  · obtain ⟨before, readsBefore, tag, conforms⟩ := old node.tag isOld
    refine conforms.congr ?_ ((expanded.forall₂_children readsBefore readsNode tag.symm).imp ?_)
    · rw [← readsNode.label, expanded.label _ isOld, ← tag, readsBefore.label]
    · rintro one two ⟨role, ⟨-, label, -⟩ | ⟨isCall, new, label, known⟩⟩
      · exact ⟨role, (congrArg Label.family label).symm⟩
      · exact ⟨role, by rw [label, composes.family known (Or.inl new), isCall]; rfl⟩
  · obtain ⟨composed, fitting⟩ :=
      composes.made node.tag (readsNode.lt_size (tag_mem_tags node)) isNew
    rw [readsNode.label, readsNode.slots, slotsOf, List.map_map] at composed
    rw [readsNode.slots] at fitting
    refine conforms_of_composed composed fun child inside => ?_
    rw [← (readsChild child inside).label]
    exact composes.family (known child inside) (fitting _ (List.mem_map_of_mem inside))

end Kinds

end LiveTree

end IfChains
