/-
**The meaning of chains in expressions.**

The meaning of a tree is told on the tree as it is: a chain with a marked head is evaluated as a
chain, on the meanings of its expressions, and every other node on the meanings of its children. No
expansion takes part in it.

* `meaning`, `meaning_eq`: the meaning of a tree as one recursion on its chains and its nodes;
* `operand_expand`: the expansion of a tree comes to the meaning of the tree.

A program with expanded chains therefore evaluates as the program does whose chains are evaluated as
chains, in every monad and with every meaning of its other nodes.
-/

import IfChains.Proofs.Chain.Program
import IfChains.Proofs.Semantics.Ladder

namespace IfChains

open IfChains.Tree

section Attaching

variable {α β γ : Type} {holds : β → Prop}

/-- A step with proofs about its expressions. -/
def Step.attachWith : (step : Step β) → (∀ expr ∈ step.exprs, holds expr) →
    Step { expr // holds expr }
  | .value branch expr, each => .value branch ⟨expr, each expr List.mem_cons_self⟩
  | .discarded branch exprs, each => .discarded branch (exprs.attachWith holds each)
  | .elseIf condition, each => .elseIf ⟨condition, each condition List.mem_cons_self⟩

/-- A chain with proofs about its expressions. -/
def Chain.attachWith (chain : Chain α β) (each : ∀ expr ∈ chain.exprs, holds expr) :
    Chain α { expr // holds expr } where
  head := chain.head
  condition := ⟨chain.condition, each chain.condition List.mem_cons_self⟩
  steps := chain.steps.pmap Step.attachWith fun step member expr inside =>
    each expr (List.mem_cons_of_mem _ (List.mem_flatMap.mpr ⟨step, member, inside⟩))

/-- Changes of expressions do not use the proofs about them. -/
theorem Step.map_attachWith (change : β → γ) (step : Step β)
    (each : ∀ expr ∈ step.exprs, holds expr) :
    (step.attachWith each).map (fun expr => change expr.1) = step.map change := by
  cases step with
  | value branch expr => rfl
  | discarded branch exprs => exact congrArg (Step.discarded branch) (List.attachWith_map_val each)
  | elseIf condition => rfl

/-- Changes of expressions do not use the proofs about them. -/
theorem Chain.map_attachWith (onHead : α → α) (change : β → γ) (chain : Chain α β)
    (each : ∀ expr ∈ chain.exprs, holds expr) :
    (chain.attachWith each).map onHead (fun expr => change expr.1) = chain.map onHead change := by
  rw [map, map, attachWith]
  congr 1
  rw [List.map_pmap]
  simp only [Step.map_attachWith, List.pmap_eq_map]

end Attaching

namespace Evaluator

variable {m : Type → Type} {Object : Type} [Monad m] (evaluator : Evaluator m Object)

/-- **The meaning of a tree** with marked chains. -/
def meaning (tree : MarkedTree) : Operand m Object :=
  match ended : (Chain.ofTree? tree).filter Chain.head with
  | some chain =>
    have smaller : ∀ expr ∈ chain.exprs, expr.size < tree.size := fun _ inside =>
      (Chain.ofTree?_within (Option.filter_eq_some_iff.mp ended).1).size_lt inside
    .single (evaluator.runChain ((chain.attachWith smaller).map id fun expr => meaning expr.1))
  | none =>
    evaluator.combine tree.label (tree.children.attach.map fun child =>
      (child.1.1, meaning child.1.2))
termination_by tree.size
decreasing_by
  · exact expr.2
  · exact size_child_lt child.2

/-- The meaning of a tree is that of a chain, or of a node with children. -/
theorem meaning_eq (tree : MarkedTree) : evaluator.meaning tree =
    match (Chain.ofTree? tree).filter Chain.head with
    | some chain => .single (evaluator.runChain (chain.map id evaluator.meaning))
    | none => evaluator.combine tree.label
        (tree.children.map fun child => (child.1, evaluator.meaning child.2)) := by
  rw [meaning]
  split
  · rename_i chain ended
    simp only [ended, Chain.map_attachWith]
  · rename_i ended
    rw [ended]
    exact congrArg (evaluator.combine tree.label)
      (List.attach_map_val
        (f := fun child : Role × MarkedTree => (child.1, evaluator.meaning child.2)))

variable [LawfulMonad m]

/-- **The expansion of a tree** comes to the meaning of the tree. -/
theorem operand_expand (tree : MarkedTree) :
    evaluator.operand (MarkedTree.expand tree) = evaluator.meaning tree := by
  induction size : tree.size using Nat.strongRecOn generalizing tree with
  | ind _ ih =>
    subst size
    rw [MarkedTree.expand_eq, meaning_eq]
    cases ended : (Chain.ofTree? tree).filter Chain.head with
    | some chain =>
      have found := (Option.filter_eq_some_iff.mp ended).1
      have image : Chain.ofTree? (Chain.rebuilt id MarkedTree.expand tree) =
          some (chain.map id MarkedTree.expand) := by
        rw [MarkedTree.rebuilds_expand.ofTree?_image, found, Option.map_some]
      have same : chain.map id (evaluator.operand ∘ MarkedTree.expand) =
          chain.map id evaluator.meaning := Chain.map_congr rfl fun expr inside =>
        ih expr.size ((Chain.ofTree?_within found).size_lt inside) expr rfl
      simp only
      rw [operand_conditional evaluator (Chain.ofTree?_plain image), Chain.map_map]
      exact congrArg _ (congrArg _ same)
    | none =>
      obtain ⟨mark, label, children⟩ := tree
      have same :
          children.map (fun child => (child.1, evaluator.operand (MarkedTree.expand child.2))) =
            children.map fun child => (child.1, evaluator.meaning child.2) :=
        List.map_congr_left fun child member =>
          congrArg (Prod.mk child.1) (ih child.2.size (size_child_lt member) child.2 rfl)
      simp only
      rw [Chain.rebuilt, operand_node, List.map_map]
      exact congrArg (evaluator.combine label) same

end Evaluator

section Programs

/-- Evaluation that notes the names that are read, and may fail with a message. -/
abbrev Traced := ExceptT String (StateM (List String))

/-- Names are noted and stand for themselves; all of them count as true but one. -/
def tracing (untrue : String) : Evaluator Traced String where
  truth
    | .object name => return name ≠ untrue
    | _ => return false
  unpack _ := throw "no values to unpack"
  negate _ := throw "no number to negate"
  item _ _ := throw "no items"
  outOfRange := throw "no such item"
  other
    | .name name _, _ => do
      modify (· ++ [name])
      return .object name
    | _, operands => return .tuple (← Operand.gather (operands.map (·.2)))

namespace Tree

variable {m : Type → Type} {Object : Type} [Monad m] [LawfulMonad m]
  {tree : SourceTree} {references : List NodeId}

/-- **Expanding chains keeps the meaning of a program**: if all names in a list open chains, what is
left of the program evaluates as the program does whose chains are evaluated as chains; and so does
the expansion of every expression, for its chains. -/
theorem dispatched_operand (evaluator : Evaluator m Object) (program : tree.IsProgram)
    (names : NamesIn references tree)
    (opens : ∀ id ∈ references, tree.numbered.opensChain id = true) (entry : String) :
    (∃ count after, tree.dispatched entry references = (.ok count, after) ∧
      evaluator.operand (tree.leftIn after) =
        evaluator.meaning (tree.numbered.map references.contains)) ∧
    ∀ expr : MarkedTree, evaluator.operand (MarkedTree.expand expr) = evaluator.meaning expr := by
  refine ⟨?_, evaluator.operand_expand⟩
  obtain ⟨after, returned⟩ := dispatched_of_opens program names entry opens
  refine ⟨_, after, returned, ?_⟩
  have shape := (dispatched_returned program names returned).2.1
  exact (evaluator.operand_of_shape_eq shape).trans (evaluator.operand_expand _)

/-- A program with one chain inside the other means the same when both are expanded. -/
theorem dispatched_operand_nestedChains :
    ∃ count after, nestedChains.dispatched "when" [0, 4] = (.ok count, after) ∧
      (tracing "b").operand (nestedChains.leftIn after) =
        (tracing "b").meaning (nestedChains.numbered.map [0, 4].contains) :=
  (dispatched_operand (tracing "b") (by decide) (by decide) (by decide) "when").1

/-- What is left of the program reads both conditions and the alternate of the inner chain. -/
example : (((tracing "b").operand (nestedChains.leftIn
    (nestedChains.dispatched "when" [0, 4]).2)).value.run.run []).2 = ["a", "b", "c"] := by
  decide +kernel

end Tree

end Programs

end IfChains
