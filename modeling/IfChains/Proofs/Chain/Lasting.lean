/-
**What every walk keeps.**

A walk changes its state by making nodes, by putting a node that it has made in the place of another
one, and by noting what it has done. A property of states that lasts through each of these changes
is kept by every walk along chains, whether it returns or stops, and whatever references it is
given. The nodes that walks make are of a few kinds. They hold nodes that were made and arguments of
calls.

* `Composed`: the kinds of nodes that walks make, with the roles of what they hold;
* `Making.upholds_processChain`: a climb keeps a property that lasts when nodes are made, and what it
  puts in the place of a chain is a node that it has made;
* `Lasting.upholds_resolver`, `Lasting.upholds_dispatch`: so do the expansion of one reference and
  that of a list;
* `lasting_positions`: the positions of older nodes last.
-/

import IfChains.Proofs.Chain.Inversion
import IfChains.Proofs.Chain.Expand

namespace IfChains

open IfChains.Walk

namespace Expansion

/-- Comes to the call of a reference, expands the chains inside its arguments, and climbs to the end
of its chain: what is done before the chain is replaced. -/
def reach (resolve : Resolver) (entry : String) (reference : NodeId) (remaining : List NodeId) :
    Walk (NodeId × ChainResult) := do
  let call ← Shape.invocation (← parentOf reference) reference entry
  ensureArguments resolve call remaining
  Shape.noKeywords call entry
  let condition ← Shape.singleArgument call entry
  Shape.expressionLike condition call entry
  return (call, ← walkChain resolve entry call condition remaining)

/-- A chain is reached, and then it is replaced. -/
theorem expandReference_eq (resolve : Resolver) (entry : String) (reference : NodeId)
    (remaining : List NodeId) : expandReference resolve entry reference remaining = (do
      if ← isProcessed reference then return false
      let (call, result) ← reach resolve entry reference remaining
      replace result.top result.expr
      markProcessed reference
      remark (.expanded entry ((← live).location call))
      return true) := by
  simp only [expandReference, reach, bind_assoc, pure_bind]

end Expansion

namespace Walk

variable {holds : WalkState → Prop} {made fit : NodeId → Prop}

/-- The kinds of nodes that walks make, with the roles of what they hold. -/
inductive Composed : Label → List Role → Prop
  | undefined : Composed (.constant .none) []
  | display (count : Nat) : Composed (.tuple .load) (List.replicate count .elts)
  | one : Composed (.constant (.int 1)) []
  | last : Composed (.unaryOp .minus) [.operand]
  | item : Composed (.subscript .load) [.value, .slice]
  | conditional : Composed .ifExp [.test, .body, .orelse]

/-- Walks make expressions, but neither calls nor members. -/
theorem kind_of_composed {label : Label} {roles : List Role} (composed : Composed label roles) :
    label.family = .expression ∧ label ≠ .call ∧ ∀ name usage, label ≠ .member name usage := by
  cases composed <;> exact ⟨rfl, nofun, nofun⟩

/-- A property of states that lasts when nodes are made. A node is made of fit nodes, and those are
the nodes that were made and the arguments of calls. -/
structure Making (holds : WalkState → Prop) (made : NodeId → Prop)
    (fit : NodeId → Prop := fun _ => True) : Prop where
  makes : ∀ {state : WalkState} {label : Label} {slots : List (Role × NodeId)},
    Composed label (slots.map Prod.fst) → (∀ slot ∈ slots, fit slot.2) → holds state →
    holds { state with live := (state.live.push label none slots).2 } ∧ made state.live.size
  fits : ∀ id, made id → fit id := by intros; trivial
  /-- What was a call has fit arguments. -/
  arguments : ∀ {before state : WalkState} {call argument : NodeId}, holds before →
    before.live.label call = .call → holds state → argument ∈ state.live.having .args call →
    fit argument := by intros; trivial

/-- A property of states that lasts through the changes that walks make: making nodes, putting a
made node in the place of another one, and noting things. -/
structure Lasting (holds : WalkState → Prop) (made : NodeId → Prop)
    (fit : NodeId → Prop := fun _ => True) : Prop extends Making holds made fit where
  replaces : ∀ {state : WalkState} {old new : NodeId} {live : LiveTree}, holds state → made new →
    state.live.replace? old new = some live → holds { state with live := live }
  notes : ∀ {state : WalkState} (processed : List NodeId) (remarks : List Remark), holds state →
    holds { state with processed := processed, remarks := remarks }

/-- A node was a call at some time. -/
def WasCall (holds : WalkState → Prop) (call : NodeId) : Prop :=
  ∃ state, holds state ∧ state.live.label call = .call

namespace Making

variable (making : Making holds made fit)

include making

section Synthesis

theorem upholds_make {label : Label} {slots : List (Role × NodeId)}
    (composed : Composed label (slots.map Prod.fst)) (fitting : ∀ slot ∈ slots, fit slot.2) :
    Upholds holds (make label slots) made :=
  fun _ held => making.makes composed fitting held

/-- A constant. -/
theorem upholds_constant {constant : Constant} (composed : Composed (.constant constant) []) :
    Upholds holds (make (.constant constant) []) made :=
  making.upholds_make composed fun _ absent => absurd absent List.not_mem_nil

theorem upholds_undefined : Upholds holds undefined made :=
  making.upholds_constant .undefined

/-- A sequence of fit expressions. -/
theorem upholds_sequence {exprs : List NodeId} (fitting : ∀ expr ∈ exprs, fit expr) :
    Upholds holds (sequence exprs) made := by
  have display : Composed (.tuple .load)
      ((exprs.map fun expr => (Role.elts, expr)).map Prod.fst) := by
    have all : (exprs.map fun expr => (Role.elts, expr)).map Prod.fst =
        List.replicate exprs.length .elts := List.map_map.trans (List.map_const ..)
    exact all ▸ .display exprs.length
  refine (making.upholds_make display (List.forall_mem_map.mpr fitting)).bind fun display made => ?_
  refine (making.upholds_constant .one).bind fun one made' => ?_
  refine (making.upholds_make .last (List.forall_mem_singleton.mpr (making.fits one made'))).bind
    fun last made'' => making.upholds_make .item ?_
  exact List.forall_mem_cons.mpr ⟨making.fits display made,
    List.forall_mem_singleton.mpr (making.fits last made'')⟩

theorem upholds_branch {exprs : List NodeId} (fitting : ∀ expr ∈ exprs, fit expr) :
    Upholds holds (Synthesis.branch exprs) fit := by
  unfold Synthesis.branch
  split
  · exact making.upholds_undefined.imp making.fits
  · exact upholds_pure (List.forall_mem_singleton.mp fitting)
  · exact (making.upholds_sequence fitting).imp making.fits

/-- The conditional expression is a node that was made. -/
theorem upholds_conditional {branches : BranchSet NodeId} {condition : NodeId}
    (fitting : ∀ expr ∈ condition :: branches.exprs, fit expr) :
    Upholds holds (Synthesis.conditional branches condition) made := by
  obtain ⟨first, others⟩ := List.forall_mem_cons.mp fitting
  obtain ⟨consequent, alternate⟩ := List.forall_mem_append.mp others
  refine (making.upholds_branch consequent).bind fun second isFit => ?_
  refine (making.upholds_branch alternate).bind fun third isFit' => making.upholds_make .conditional ?_
  exact List.forall_mem_cons.mpr ⟨first, List.forall_mem_cons.mpr ⟨isFit,
    List.forall_mem_singleton.mpr isFit'⟩⟩

end Synthesis

section Climbing

variable {resolve : Expansion.Resolver} {remaining : List NodeId}
  (resolves : ∀ reference later, reference :: later ⊆ remaining →
    Upholds holds (resolve reference later) fun _ => True)
  (entry : String)

omit making in
/-- What is found to be a call is one. -/
theorem upholds_invocation (node current : Option NodeId) (label : String) :
    Upholds holds (Shape.invocation node current label) (WasCall holds) :=
  upholds_found (looks_invocation node current label) fun state _ held found =>
    ⟨state, held, (of_invocation found).2.1⟩

/-- The arguments of a call are fit. -/
theorem upholds_argumentsOf {call : NodeId} (was : WasCall holds call) :
    Upholds holds (argumentsOf call) fun arguments => ∀ argument ∈ arguments, fit argument := by
  obtain ⟨before, held, isCall⟩ := was
  refine upholds_found (looks_nodesOf .args call) fun state arguments held' found argument among => ?_
  exact making.arguments held isCall held' (of_nodesOf found ▸ among)

/-- So is the only argument. -/
theorem upholds_singleArgument {call : NodeId} (was : WasCall holds call) (label : String) :
    Upholds holds (Shape.singleArgument call label) fit := by
  obtain ⟨before, held, isCall⟩ := was
  refine upholds_found (looks_singleArgument call label) fun state argument held' found => ?_
  exact making.arguments held isCall held' (of_singleArgument found ▸ List.mem_singleton_self _)

include resolves

/-- **A climb keeps what lasts**, and comes to a node that it has made. -/
theorem upholds_processChain (steps : Nat) (position condition : NodeId)
    (branches : BranchSet NodeId) (fitting : ∀ expr ∈ condition :: branches.exprs, fit expr) :
    Upholds holds (Expansion.processChain resolve entry steps position condition branches remaining)
      fun result => made result.expr := by
  induction steps generalizing position condition branches with
  | zero => exact upholds_throw _
  | succ steps ih =>
    obtain ⟨first, others⟩ := List.forall_mem_cons.mp fitting
    -- What is gathered in addition is fit as well.
    have gathers : ∀ {branches' : BranchSet NodeId} {extra : List NodeId},
        (∀ expr ∈ extra, fit expr) → branches'.exprs ⊆ branches.exprs ++ extra →
        ∀ expr ∈ condition :: branches'.exprs, fit expr := fun fitting' fewer =>
      List.forall_mem_cons.mpr ⟨first, fun expr among =>
        List.forall_mem_append.mpr ⟨others, fitting'⟩ expr (fewer among)⟩
    unfold Expansion.processChain
    refine upholds_look (looks_parentOf position) fun parent => ?_
    refine upholds_look (looks_nextMember entry parent position) fun member => ?_
    refine upholds_look (looks_continuationOf entry member) fun continuation => ?_
    refine upholds_look (looks_parentOf member) fun above => ?_
    refine (upholds_invocation above member _).bind fun call was => ?_
    split
    · refine upholds_look (looks_noArguments call _) fun _ => ?_
      refine upholds_look (looks_noKeywords call _) fun _ => ?_
      exact (making.upholds_conditional fitting).bind fun expr isMade => upholds_pure isMade
    refine (upholds_ensureArguments_of_subset resolves call).bind fun _ _ => ?_
    refine upholds_look (looks_noKeywords call _) fun _ => ?_
    split
    · refine (making.upholds_singleArgument was _).bind fun argument isFit => ?_
      refine upholds_look (looks_expressionLike argument call _) fun _ => ?_
      refine (ih call argument {} (List.forall_mem_singleton.mpr isFit)).bind fun nested isMade => ?_
      have fitting' : ∀ expr ∈ [nested.expr], fit expr :=
        List.forall_mem_singleton.mpr (making.fits _ isMade)
      have fewer : (branches.replaceAlternate nested.expr).exprs ⊆ branches.exprs ++ [nested.expr] :=
        List.append_subset.mpr ⟨fun expr among => List.mem_append_left _
          (List.mem_append_left _ among), List.subset_append_right _ _⟩
      exact (making.upholds_conditional (gathers fitting' fewer)).bind
        fun expr isMade => upholds_pure isMade
    split
    · split
      · refine upholds_look (looks_pure _) fun branch => ?_
        refine (making.upholds_singleArgument was _).bind fun argument isFit => ?_
        refine upholds_look (looks_expressionLike argument call _) fun _ => ?_
        exact ih call condition _ (gathers (List.forall_mem_singleton.mpr isFit)
          (branches.exprs_push branch argument).subset)
      · exact upholds_throw_bind _
    · split
      · refine upholds_look (looks_pure _) fun branch => ?_
        refine (making.upholds_argumentsOf was).bind fun arguments fitting' => ?_
        refine making.upholds_undefined.bind fun undefined isMade => ?_
        exact ih call condition _ (gathers (List.forall_mem_append.mpr ⟨fitting',
          List.forall_mem_singleton.mpr (making.fits _ isMade)⟩)
          (branches.exprs_pushDiscarded branch arguments undefined).subset)
      · exact upholds_throw_bind _

/-- A walk along a chain comes to a node that it has made. -/
theorem upholds_walkChain (position : NodeId) {condition : NodeId} (isFit : fit condition) :
    Upholds holds (Expansion.walkChain resolve entry position condition remaining)
      fun result => made result.expr :=
  upholds_look looks_live fun live => making.upholds_processChain resolves entry live.size position
    condition {} (List.forall_mem_singleton.mpr isFit)

/-- **Coming to the end of the chain of a reference** keeps what lasts. -/
theorem upholds_reach (reference : NodeId) :
    Upholds holds (Expansion.reach resolve entry reference remaining)
      fun reached => made reached.2.expr := by
  unfold Expansion.reach
  refine upholds_look (looks_parentOf reference) fun parent => ?_
  refine (upholds_invocation parent reference entry).bind fun call was => ?_
  refine (upholds_ensureArguments_of_subset resolves call).bind fun _ _ => ?_
  refine upholds_look (looks_noKeywords call entry) fun _ => ?_
  refine (making.upholds_singleArgument was entry).bind fun condition isFit => ?_
  refine upholds_look (looks_expressionLike condition call entry) fun _ => ?_
  exact (making.upholds_walkChain resolves entry call isFit).bind fun result isMade =>
    upholds_pure isMade

end Climbing

end Making

namespace Lasting

variable (lasting : Lasting holds made fit)

include lasting

section Changing

theorem upholds_replace {new : NodeId} (old : NodeId) (isMade : made new) :
    Upholds holds (replace old new) fun _ => True := by
  intro state held
  cases replaced : state.live.replace? old new with
  | none =>
    rw [Meets, outcome_replace_none replaced]
    exact held
  | some live =>
    rw [Meets, outcome_replace replaced]
    exact ⟨lasting.replaces held isMade replaced, trivial⟩

theorem upholds_markProcessed (reference : NodeId) :
    Upholds holds (markProcessed reference) fun _ => True :=
  fun state held => ⟨lasting.notes (reference :: state.processed) state.remarks held, trivial⟩

theorem upholds_remark (remark : Remark) : Upholds holds (Walk.remark remark) fun _ => True :=
  fun state held => ⟨lasting.notes state.processed (state.remarks ++ [remark]) held, trivial⟩

end Changing

variable {resolve : Expansion.Resolver}
  (resolves : ∀ reference later, Upholds holds (resolve reference later) fun _ => True)
  (entry : String)

section Resolver

include resolves

/-- The expansion of one reference keeps what lasts. -/
theorem upholds_expandReference (reference : NodeId) (remaining : List NodeId) :
    Upholds holds (Expansion.expandReference resolve entry reference remaining) fun _ => True := by
  rw [Expansion.expandReference_eq]
  refine upholds_look (looks_isProcessed reference) fun processed => ?_
  split
  · exact upholds_pure trivial
  refine (lasting.upholds_reach (fun reference later _ => resolves reference later) entry
    reference).bind fun reached isMade => ?_
  refine (lasting.upholds_replace reached.2.top isMade).bind fun _ _ => ?_
  refine (lasting.upholds_markProcessed reference).bind fun _ _ => ?_
  refine upholds_look looks_live fun live => ?_
  exact (lasting.upholds_remark _).bind fun _ _ => upholds_pure trivial

end Resolver

/-- **So does every resolver.** -/
theorem upholds_resolver (depth : Nat) (reference : NodeId) (remaining : List NodeId) :
    Upholds holds (Expansion.resolver entry depth reference remaining) fun _ => True := by
  induction depth generalizing reference remaining with
  | zero => exact upholds_throw _
  | succ depth ih => exact lasting.upholds_expandReference ih entry reference remaining

/-- **The expansion of a list of references keeps what lasts.** -/
theorem upholds_dispatch (references : List NodeId) :
    Upholds holds (Expansion.dispatch entry references) fun _ => True :=
  Walk.upholds_dispatch (fun depth reference later _ => lasting.upholds_resolver entry depth reference
    later) fun remarks held _ => lasting.notes _ remarks held

end Lasting

section Positions

/-- The positions of the nodes made before a state last. -/
theorem lasting_positions (start : WalkState) :
    Lasting (fun state => start.live.size ≤ state.live.size ∧
      ∀ id < start.live.size, state.live.position? id = start.live.position? id)
      fun id => start.live.size ≤ id where
  makes {_ label slots} _ _ held := by
    refine ⟨⟨?_, fun id old => ?_⟩, held.1⟩
    · exact Nat.le_trans held.1 (LiveTree.size_push .. ▸ Nat.le_succ _)
    · exact (LiveTree.position?_push id label slots).trans (held.2 id old)
  replaces held fresh replaced := by
    obtain ⟨size, position⟩ := LiveTree.replace?_leaves replaced
    refine ⟨size ▸ held.1, fun id old => ?_⟩
    exact (position id (Nat.ne_of_lt (Nat.lt_of_lt_of_le old fresh))).trans (held.2 id old)
  notes _ _ held := held

end Positions

end Walk

end IfChains
