/-
**Expanding marked chains in one recursion.**

The tags of a marked tree tell which names open the chains that are to be expanded. `expand` goes
through such a tree once, from the leaves to the root: a chain with a marked head becomes a
conditional expression of its condition and its gathered branches, which are already expanded, and
every other node is kept with its children expanded.

* `conditional_eq_told`: the branches of the conditional expression of a chain hold what is relevant
  to them in the history of its steps, so that it is told without the operations that gather them;
* `plain_ifExp`: the conditional expression of expressions without marks has none either;
* `expand_of_chain`, `expand_of_plain`: what becomes of a chain with a marked head, and of any
  other node;
* `expand_eq`: the same as one equation on the tree before its expansion;
* `expand_eq_self`: a tree without marks stays as it is;
* `expand_fill_congr`: nodes that expand to the same do so in every context.
-/

import IfChains.Proofs.Chain.History
import IfChains.Proofs.Chain.Reading
import Mathlib.Data.List.Perm.Subperm

namespace IfChains

/-- A tree whose tags tell which names are marked. -/
abbrev MarkedTree := Tree Bool

namespace BranchSet

variable {α β : Type} (change : α → β)

/-- The gathered expressions, each changed. -/
def map (branches : BranchSet α) : BranchSet β :=
  ⟨branches.consequent.map change, branches.alternate.map change⟩

/-- All gathered expressions. -/
def exprs (branches : BranchSet α) : List α :=
  branches.consequent ++ branches.alternate

@[simp]
theorem map_empty : BranchSet.map change {} = {} := rfl

theorem exprs_map (branches : BranchSet α) :
    (branches.map change).exprs = branches.exprs.map change :=
  List.map_append.symm

theorem map_push (branches : BranchSet α) (branch : Branch) (expr : α) :
    (branches.push branch expr).map change = (branches.map change).push branch (change expr) := by
  cases branch <;> simp [push, set, get, map]

theorem map_pushDiscarded (branches : BranchSet α) (branch : Branch) (exprs : List α)
    (undefined : α) : (branches.pushDiscarded branch exprs undefined).map change =
      (branches.map change).pushDiscarded branch (exprs.map change) (change undefined) := by
  have last : ∀ items : List α,
      change (items.getLastD undefined) = (items.map change).getLastD (change undefined) :=
    fun items => List.getLastD_map.symm
  cases branch <;> simp only [pushDiscarded, set, get, map, last, List.map_append,
    List.map_dropLast, List.map_cons, List.map_nil]

/-- Pushing gathers one more expression. -/
theorem exprs_push (branches : BranchSet α) (branch : Branch) (expr : α) :
    (branches.push branch expr).exprs.Perm (branches.exprs ++ [expr]) := by
  obtain ⟨consequent, alternate⟩ := branches
  cases branch with
  | consequent =>
    simp only [push, set, get, exprs, List.append_assoc]
    exact List.perm_append_comm.append_left consequent
  | alternate =>
    simp only [push, set, get, exprs, List.append_assoc]
    exact List.Perm.refl _

/-- Expressions before the value of a branch, with an undefined value if there is none. -/
theorem dropLast_append_subperm (items exprs : List α) (undefined : α) :
    (items.dropLast ++ exprs ++ [items.getLastD undefined]).Subperm
      (items ++ (exprs ++ [undefined])) := by
  rcases List.eq_nil_or_concat items with rfl | ⟨front, last, rfl⟩
  · exact (List.Sublist.refl _).subperm
  · rw [List.concat_eq_append, List.dropLast_concat, List.getLastD_concat, List.append_assoc,
      List.append_assoc]
    have moved : (exprs ++ [last]).Perm ([last] ++ exprs) := List.perm_append_comm
    have fewer : ([last] ++ exprs).Subperm ([last] ++ (exprs ++ [undefined])) :=
      (List.subperm_append_left _).mpr (List.sublist_append_left exprs [undefined]).subperm
    exact (List.subperm_append_left front).mpr (moved.subperm.trans fewer)

/-- Putting expressions before a value gathers them, and perhaps an undefined value. -/
theorem exprs_pushDiscarded (branches : BranchSet α) (branch : Branch) (exprs : List α)
    (undefined : α) : (branches.pushDiscarded branch exprs undefined).exprs.Subperm
      (branches.exprs ++ (exprs ++ [undefined])) := by
  obtain ⟨consequent, alternate⟩ := branches
  cases branch with
  | consequent =>
    have moved : ((consequent ++ (exprs ++ [undefined])) ++ alternate).Perm
        (consequent ++ alternate ++ (exprs ++ [undefined])) := by
      rw [List.append_assoc, List.append_assoc consequent alternate]
      exact List.perm_append_comm.append_left consequent
    refine List.Subperm.trans ?_ moved.subperm
    exact (List.subperm_append_right alternate).mpr (dropLast_append_subperm ..)
  | alternate =>
    have fewer := dropLast_append_subperm alternate exprs undefined
    have together := (List.subperm_append_left consequent).mpr fewer
    rw [← List.append_assoc consequent alternate] at together
    exact together

end BranchSet

namespace MarkedTree

open IfChains.Tree

section Making

/-- A node that was not in the source. -/
def made (label : Label) (children : Forest Bool) : MarkedTree :=
  .node false label children

/-- The value of a branch that has none. -/
def undefined : MarkedTree :=
  made (.constant .none) []

/-- An expression that evaluates others from left to right and has the value of the last. -/
def sequence (exprs : List MarkedTree) : MarkedTree :=
  made (.subscript .load) [(.value, made (.tuple .load) (exprs.map fun expr => (.elts, expr))),
    (.slice, made (.unaryOp .minus) [(.operand, made (.constant (.int 1)) [])])]

/-- The expression of a branch. -/
def branch : List MarkedTree → MarkedTree
  | [] => undefined
  | [expr] => expr
  | exprs => sequence exprs

/-- A conditional expression of a condition and two branches. -/
def ifExp (condition : MarkedTree) (branches : BranchSet MarkedTree) : MarkedTree :=
  made .ifExp [(.test, condition), (.body, branch branches.consequent),
    (.orelse, branch branches.alternate)]

/-- The conditional expression of a condition, what its branches have gathered so far, and the
steps that follow. What follows an `else_if` becomes a conditional of its own, which is the whole
alternate branch. -/
def build (condition : MarkedTree) (branches : BranchSet MarkedTree) :
    List (Step MarkedTree) → MarkedTree
  | [] => ifExp condition branches
  | .value branch expr :: later => build condition (branches.push branch expr) later
  | .discarded branch exprs :: later =>
    build condition (branches.pushDiscarded branch exprs undefined) later
  | .elseIf inner :: later => ifExp condition (branches.replaceAlternate (build inner {} later))

/-- The conditional expression of a chain. -/
def conditional (chain : Chain Bool MarkedTree) : MarkedTree :=
  build chain.condition {} chain.steps

end Making

section Telling

open BranchSet

/-- The conditional expression whose branches hold what is relevant to them in a history. -/
def told (condition : MarkedTree) (history : List (Operation MarkedTree)) : MarkedTree :=
  made .ifExp [(.test, condition), (.body, branch (held (relevant .consequent history))),
    (.orelse, branch (held (relevant .alternate history)))]

/-- What the steps of a chain do to its branches. An `else_if` replaces the alternate branch by the
conditional that all later steps are told of, and these do nothing else. -/
def historyOf : List (Step MarkedTree) → List (Operation MarkedTree)
  | [] => []
  | .value fed expr :: later => .push fed expr :: historyOf later
  | .discarded fed exprs :: later => .pushDiscarded fed exprs undefined :: historyOf later
  | .elseIf inner :: later => [.replaceAlternate (told inner (historyOf later))]

/-- The branches after a history are what is told of it. -/
theorem ifExp_after (condition : MarkedTree) (history : List (Operation MarkedTree)) :
    ifExp condition (after history) = told condition history := by
  unfold ifExp told
  rw [← get_after, ← get_after]
  rfl

/-- A conditional that has a history already is told of it and of the steps that follow. -/
theorem build_after (condition : MarkedTree) (history : List (Operation MarkedTree))
    (steps : List (Step MarkedTree)) :
    build condition (after history) steps = told condition (history ++ historyOf steps) := by
  induction steps generalizing condition history with
  | nil =>
    rw [historyOf, List.append_nil]
    exact ifExp_after condition history
  | cons step later ih =>
    cases step with
    | value fed expr =>
      rw [build]
      show build condition ((Operation.push fed expr).perform (after history)) later = _
      rw [← after_concat, ih, historyOf, List.append_assoc]
      rfl
    | discarded fed exprs =>
      rw [build]
      show build condition
        ((Operation.pushDiscarded fed exprs undefined).perform (after history)) later = _
      rw [← after_concat, ih, historyOf, List.append_assoc]
      rfl
    | elseIf inner =>
      -- The inner conditional starts with empty branches, so its history is that of its steps.
      have nested : build inner {} later = told inner (historyOf later) := ih inner []
      rw [build, nested]
      show ifExp condition
        ((Operation.replaceAlternate (told inner (historyOf later))).perform (after history)) = _
      rw [← after_concat, ifExp_after, historyOf]

/-- **The conditional expression of a chain** is told of its condition and of what its steps do to
its branches. -/
theorem conditional_eq_told (chain : Chain Bool MarkedTree) :
    conditional chain = told chain.condition (historyOf chain.steps) :=
  build_after chain.condition [] chain.steps

/-- The conditional expression of a chain has the label of one. -/
theorem label_conditional (chain : Chain Bool MarkedTree) :
    (conditional chain).label = .ifExp := by
  rw [conditional_eq_told]
  rfl

end Telling

section Plainness

/-- An expression without marks whose nodes have the children of their kind. -/
structure Plain (tree : MarkedTree) : Prop where
  unmarked : ∀ mark ∈ tree.tags, mark = false
  conforming : tree.Conforming
  expression : tree.label.family = .expression

/-- A made node above plain expressions. -/
theorem plain_made {label : Label} {children : Forest Bool}
    (conforms : (made label children).Conforms) (expression : label.family = .expression)
    (plain : ∀ child ∈ children, Plain child.2) : (made label children).Plain := by
  refine ⟨fun mark member => ?_, ?_, expression⟩
  · rw [made, tags_node, List.mem_cons] at member
    rcases member with rfl | beneath
    · rfl
    · obtain ⟨child, inside, deeper⟩ := mem_tagsIn.mp beneath
      exact (plain child inside).unmarked mark deeper
  · exact conforming_node.mpr ⟨conforms, fun child member => (plain child member).conforming⟩

/-- A made node each of whose roles is taken by one plain expression. -/
theorem plain_single {label : Label} {children : Forest Bool}
    (expression : label.family = .expression)
    (fields : label.fields = children.map fun child => (child.1, Arity.one))
    (families : ∀ child ∈ children, label.childFamily child.1 = .expression)
    (plain : ∀ child ∈ children, Plain child.2) : (made label children).Plain :=
  plain_made (conforms_of_single fields fun child member =>
    (plain child member).expression.trans (families child member).symm) expression plain

theorem plain_constant (constant : Constant) : (made (.constant constant) []).Plain :=
  plain_single rfl rfl (fun _ absent => absurd absent List.not_mem_nil)
    fun _ absent => absurd absent List.not_mem_nil

/-- A display of plain expressions. -/
theorem plain_display {exprs : List MarkedTree} (plain : ∀ expr ∈ exprs, expr.Plain) :
    (made (.tuple .load) (exprs.map fun expr => (.elts, expr))).Plain := by
  refine plain_made ⟨fun field member => ?_, fun child member => ?_, fun child member => ?_⟩ rfl
    fun child member => ?_
  · rw [List.mem_singleton.mp member]
    rfl
  all_goals obtain ⟨expr, inside, rfl⟩ := List.mem_map.mp member
  · exact List.mem_cons_self
  · exact (plain expr inside).expression
  · exact plain expr inside

/-- A sequence of plain expressions. -/
theorem plain_sequence {exprs : List MarkedTree} (plain : ∀ expr ∈ exprs, expr.Plain) :
    (sequence exprs).Plain := by
  have last : (made (.unaryOp .minus) [(.operand, made (.constant (.int 1)) [])]).Plain :=
    plain_single rfl rfl (List.forall_mem_singleton.mpr rfl)
      (List.forall_mem_singleton.mpr (plain_constant _))
  exact plain_single rfl rfl (List.forall_mem_cons.mpr ⟨rfl, List.forall_mem_singleton.mpr rfl⟩)
    (List.forall_mem_cons.mpr ⟨plain_display plain, List.forall_mem_singleton.mpr last⟩)

/-- The expression of a branch of plain expressions. -/
theorem plain_branch {exprs : List MarkedTree} (plain : ∀ expr ∈ exprs, expr.Plain) :
    (branch exprs).Plain := by
  rcases exprs with _ | ⟨expr, _ | ⟨second, rest⟩⟩
  · exact plain_constant .none
  · exact plain expr List.mem_cons_self
  · exact plain_sequence plain

/-- **The conditional expression of plain expressions** is plain. -/
theorem plain_ifExp {condition : MarkedTree} {branches : BranchSet MarkedTree}
    (plain : ∀ expr ∈ condition :: branches.exprs, expr.Plain) :
    (ifExp condition branches).Plain := by
  obtain ⟨test, rest⟩ := List.forall_mem_cons.mp plain
  obtain ⟨body, orelse⟩ := List.forall_mem_append.mp rest
  exact plain_single rfl rfl
    (List.forall_mem_cons.mpr ⟨rfl, List.forall_mem_cons.mpr ⟨rfl,
      List.forall_mem_singleton.mpr rfl⟩⟩)
    (List.forall_mem_cons.mpr ⟨test, List.forall_mem_cons.mpr ⟨plain_branch body,
      List.forall_mem_singleton.mpr (plain_branch orelse)⟩⟩)

end Plainness

section Expanding

/-- The conditional expression of the chain that ends at a node, if its head is marked. -/
def collapse (tree : MarkedTree) : MarkedTree :=
  match Chain.ofTree? tree with
  | some chain => if chain.head then conditional chain else tree
  | none => tree

mutual

/-- **The tree with the chains of marked names expanded**, from the leaves to the root. -/
def expand : MarkedTree → MarkedTree
  | .node mark label children => collapse (.node mark label (expandForest children))

/-- The forest with the chains of marked names expanded. -/
def expandForest : Forest Bool → Forest Bool
  | [] => []
  | (role, tree) :: rest => (role, expand tree) :: expandForest rest

end

/-- The trees of a forest are expanded one by one. -/
theorem expandForest_eq (forest : Forest Bool) :
    expandForest forest = forest.map fun child => (child.1, expand child.2) := by
  induction forest with
  | nil => rfl
  | cons child rest ih =>
    obtain ⟨role, tree⟩ := child
    rw [expandForest, ih, List.map_cons]

/-- A node is expanded after its children. -/
theorem expand_eq_collapse (tree : MarkedTree) :
    expand tree = collapse (Chain.rebuilt id expand tree) := by
  obtain ⟨mark, label, children⟩ := tree
  rw [expand, expandForest_eq]
  rfl

/-- Expanding keeps labels and roles, apart from chains that become conditional expressions. -/
theorem rebuilds_expand : Chain.Rebuilds id expand := by
  intro tree
  rw [expand_eq_collapse, collapse]
  split
  · rename_i chain ended
    split
    · refine Or.inr ⟨⟨chain, ended⟩, ?_⟩
      have label := label_conditional chain
      generalize conditional chain = expr at label
      obtain ⟨mark, label', children⟩ := expr
      obtain rfl : label' = .ifExp := label
      exact ⟨rfl, rfl, rfl⟩
    · exact Or.inl rfl
  · exact Or.inl rfl

/-- **A chain with a marked head** becomes the conditional expression of its expanded
expressions. -/
theorem expand_of_chain {tree : MarkedTree} {chain : Chain Bool MarkedTree}
    (ended : Chain.ofTree? tree = some chain) (marked : chain.head = true) :
    expand tree = conditional (chain.map id expand) := by
  have image : (chain.map id expand).head = true := marked
  rw [expand_eq_collapse, collapse, rebuilds_expand.ofTree?_image, ended, Option.map_some]
  exact if_pos image

/-- **Every other node** is kept, with its children expanded. -/
theorem expand_of_plain {tree : MarkedTree}
    (plain : ∀ chain, Chain.ofTree? tree = some chain → chain.head = false) :
    expand tree = Chain.rebuilt id expand tree := by
  rw [expand_eq_collapse, collapse, rebuilds_expand.ofTree?_image]
  cases ended : Chain.ofTree? tree with
  | none => rfl
  | some chain =>
    have unmarked : (chain.map id expand).head = false := plain chain ended
    rw [Option.map_some]
    simp only [unmarked]
    rfl

/-- **Expanding is one recursion** on the chains and the nodes of the tree as it was. -/
theorem expand_eq (tree : MarkedTree) :
    expand tree = match (Chain.ofTree? tree).filter Chain.head with
      | some chain => conditional (chain.map id expand)
      | none => Chain.rebuilt id expand tree := by
  cases ended : Chain.ofTree? tree with
  | none => exact expand_of_plain fun chain same => nomatch ended.symm.trans same
  | some chain =>
    cases marked : chain.head with
    | true =>
      rw [Option.filter_some, if_pos marked]
      exact expand_of_chain ended marked
    | false =>
      rw [Option.filter_some, if_neg (Bool.eq_false_iff.mp marked)]
      refine expand_of_plain fun chain' same => ?_
      obtain rfl : chain = chain' := Option.some.inj (ended.symm.trans same)
      exact marked

/-- **A tree without marks stays as it is.** -/
theorem expand_eq_self {tree : MarkedTree} (unmarked : ∀ mark ∈ tree.tags, mark = false) :
    expand tree = tree := by
  induction tree using Tree.induction with
  | node mark label children ih =>
    rw [expand_of_plain fun chain ended => unmarked _ (Chain.ofTree?_within ended).head]
    have children_eq : children.map (fun child => (child.1, expand child.2)) = children := by
      refine (List.map_congr_left fun child member => ?_).trans (List.map_id children)
      have inside : ∀ mark ∈ child.2.tags, mark = false := fun inner beneath =>
        unmarked inner (mem_tags_of_mem (child_mem_preorder member) beneath)
      rw [ih child member inside]
      rfl
    rw [Chain.rebuilt, children_eq]
    rfl

/-- A frame is rebuilt alike around nodes that expand to the same. -/
theorem rebuilt_frame_congr (frame : Frame Bool) {first second : MarkedTree}
    (same : expand first = expand second) :
    Chain.rebuilt id expand (frame.fill first) = Chain.rebuilt id expand (frame.fill second) := by
  simp [Frame.fill, Chain.rebuilt, same]

/-- Nodes that expand to the same do so in the hole of a frame. -/
theorem expand_frame_congr (frame : Frame Bool) {first second : MarkedTree}
    (same : expand first = expand second) :
    expand (frame.fill first) = expand (frame.fill second) := by
  rw [expand_eq_collapse, rebuilt_frame_congr frame same, ← expand_eq_collapse]

/-- **Nodes that expand to the same do so in every context.** -/
theorem expand_fill_congr (context : Context Bool) {first second : MarkedTree}
    (same : expand first = expand second) :
    expand (Context.fill context first) = expand (Context.fill context second) := by
  induction context generalizing first second with
  | nil => exact same
  | cons frame outer ih => exact ih (expand_frame_congr frame same)

end Expanding

end MarkedTree

end IfChains
