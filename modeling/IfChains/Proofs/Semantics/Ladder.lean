/-
**Evaluating chains.**

A chain is a ladder: its `else_if`s split it into rungs. The conditions of the rungs are evaluated
in order up to the first that holds, and then the consequent steps of its rung; if none holds, the
alternate steps of the last rung are evaluated. Nothing else is. Expressions that come before the
value of a branch are evaluated when their step is met, while the value that is there waits for the
next one.

* `rungs`: a chain split at its `else_if`s; `runBranch`, `choose`, `runChain`: what evaluating one
  branch of a rung, a ladder and a chain comes to;
* `resume_push`, `resume_pushDiscarded`: gathering an expression for a branch is leaving its step to
  be met;
* `operand_build`, `operand_conditional`: the conditional expression of a chain comes to what the
  chain comes to.
-/

import IfChains.Proofs.Semantics.Evaluator

namespace IfChains

open IfChains.Tree

/-- A condition, and the steps that follow it up to the next condition. -/
structure Rung (β : Type) where
  condition : β
  steps : List (Step β)

/-- The steps before the first `else_if`, and the rungs that the `else_if`s open. -/
def rungs {β : Type} : List (Step β) → List (Step β) × List (Rung β)
  | [] => ([], [])
  | .value branch expr :: later => (.value branch expr :: (rungs later).1, (rungs later).2)
  | .discarded branch exprs :: later =>
    (.discarded branch exprs :: (rungs later).1, (rungs later).2)
  | .elseIf condition :: later => ([], ⟨condition, (rungs later).1⟩ :: (rungs later).2)

variable {m : Type → Type} {Object α : Type} [Monad m]

section Running

/-- Evaluates what the steps of a rung do for a branch. The value that its branch has so far waits
until another one comes after it or the steps end. -/
def runBranch (branch : Branch) (waiting : m (Value Object)) :
    List (Step (Operand m Object)) → m (Value Object)
  | [] => waiting
  | .value other expr :: later =>
    if other = branch then do
      let _ ← waiting
      runBranch branch expr.value later
    else runBranch branch waiting later
  | .discarded other exprs :: later =>
    if other = branch then do
      exprs.forM Operand.discard
      runBranch branch waiting later
    else runBranch branch waiting later
  | .elseIf _ :: later => runBranch branch waiting later

/-- Evaluates the first rung whose condition holds, or the alternate of the last. -/
def Evaluator.choose (evaluator : Evaluator m Object) :
    Rung (Operand m Object) → List (Rung (Operand m Object)) → m (Value Object)
  | rung, [] => do
    if ← evaluator.holds rung.condition then runBranch .consequent (return .none) rung.steps
    else runBranch .alternate (return .none) rung.steps
  | rung, next :: more => do
    if ← evaluator.holds rung.condition then runBranch .consequent (return .none) rung.steps
    else choose evaluator next more

/-- **Evaluates a chain.** -/
def Evaluator.runChain (evaluator : Evaluator m Object) (chain : Chain α (Operand m Object)) :
    m (Value Object) :=
  evaluator.choose ⟨chain.condition, (rungs chain.steps).1⟩ (rungs chain.steps).2

end Running

section Resuming

/-- The value that the last of some gathered operands has, if there is one. -/
def lastValue (gathered : List (Operand m Object)) : m (Value Object) :=
  (gathered.getLastD (.single (return .none))).value

/-- Evaluates gathered operands, the last of which waits while steps of a rung follow. -/
def resume (branch : Branch) (gathered : List (Operand m Object))
    (steps : List (Step (Operand m Object))) : m (Value Object) := do
  gathered.dropLast.forM Operand.discard
  runBranch branch (lastValue gathered) steps

/-- Operands whose last is the computation of a value. -/
def EndsSingle (gathered : List (Operand m Object)) : Prop :=
  ∀ last ∈ gathered.getLast?, last = .single last.value

variable {branch : Branch} {gathered : List (Operand m Object)}
  {later : List (Step (Operand m Object))}

/-- Steps of a rung that are for the other branch are passed by. -/
theorem resume_value_other {other : Branch} (differ : other ≠ branch) (expr : Operand m Object) :
    resume branch gathered (.value other expr :: later) = resume branch gathered later := by
  rw [resume, runBranch, if_neg differ, resume]

/-- Steps of a rung that are for the other branch are passed by. -/
theorem resume_discarded_other {other : Branch} (differ : other ≠ branch)
    (exprs : List (Operand m Object)) :
    resume branch gathered (.discarded other exprs :: later) = resume branch gathered later := by
  rw [resume, runBranch, if_neg differ, resume]

variable [LawfulMonad m]

/-- With nothing gathered, the steps are all there is. -/
theorem resume_nil (steps : List (Step (Operand m Object))) :
    resume branch [] steps = runBranch branch (return .none) steps := by
  simp [resume, lastValue]

/-- Evaluating gathered operands in order leaves the last for the end. -/
theorem inOrder_eq_resume (gathered : List (Operand m Object)) :
    Operand.inOrder gathered = resume branch gathered [] := by
  fun_induction Operand.inOrder gathered with
  | case1 => exact (resume_nil []).symm
  | case2 last => simp [resume, lastValue, runBranch]
  | case3 operand next rest ih =>
    rw [ih]
    simp [resume, lastValue, runBranch]

/-- Evaluating the computation of a value for its effects. -/
theorem bind_discard_single {γ : Type} {operand : Operand m Object}
    (single : operand = .single operand.value) (next : m γ) :
    (operand.discard >>= fun _ => next) = operand.value >>= fun _ => next := by
  rw [single]
  simp [Operand.discard, Operand.values, Operand.value]

/-- A value that is no longer waited for is evaluated like any other operand. -/
theorem resume_push (ends : EndsSingle gathered) (expr : Operand m Object) :
    resume branch (gathered ++ [expr]) later =
      resume branch gathered (.value branch expr :: later) := by
  rcases List.eq_nil_or_concat gathered with rfl | ⟨front, last, rfl⟩
  · simp [resume, lastValue, runBranch]
  · rw [List.concat_eq_append] at ends ⊢
    have single : last = .single last.value := ends last (by simp)
    simp [resume, lastValue, runBranch, bind_discard_single single]

/-- Operands that are put before a value are evaluated while it waits. -/
theorem resume_pushDiscarded (exprs : List (Operand m Object)) :
    resume branch (gathered.dropLast ++ exprs ++ [gathered.getLastD (.single (return .none))])
      later = resume branch gathered (.discarded branch exprs :: later) := by
  simp [resume, lastValue, runBranch]

end Resuming

section Gathering

open BranchSet

/-- A branch is the same as another one or the other of the two. -/
theorem Branch.eq_or_eq_other (first second : Branch) : first = second ∨ first = second.other := by
  cases first <;> cases second <;> simp [Branch.other]

/-- The other branch is not the same. -/
theorem Branch.ne_other (branch : Branch) : branch ≠ branch.other := by
  cases branch <;> simp [Branch.other]

/-- Evaluates the first rung whose condition holds, where operands have been gathered for the
branches of the first of all rungs. -/
def Evaluator.chooseFrom (evaluator : Evaluator m Object) (branches : BranchSet (Operand m Object))
    (rung : Rung (Operand m Object)) :
    List (Rung (Operand m Object)) → m (Value Object)
  | [] => do
    if ← evaluator.holds rung.condition then
      resume .consequent (branches.get .consequent) rung.steps
    else resume .alternate (branches.get .alternate) rung.steps
  | next :: more => do
    if ← evaluator.holds rung.condition then
      resume .consequent (branches.get .consequent) rung.steps
    else evaluator.choose next more

variable {branches : BranchSet (Operand m Object)} {evaluator : Evaluator m Object}

/-- What is gathered for the branches of a rung matters as far as its steps resume it. -/
theorem chooseFrom_congr {branches' : BranchSet (Operand m Object)}
    {steps steps' : List (Step (Operand m Object))}
    (resumed : ∀ branch, resume branch (branches.get branch) steps =
      resume branch (branches'.get branch) steps')
    (condition : Operand m Object) (more : List (Rung (Operand m Object))) :
    evaluator.chooseFrom branches ⟨condition, steps⟩ more =
      evaluator.chooseFrom branches' ⟨condition, steps'⟩ more := by
  cases more <;> simp only [Evaluator.chooseFrom, resumed]

variable [LawfulMonad m]

/-- With nothing gathered, the rungs are all there is. -/
theorem chooseFrom_empty (rung : Rung (Operand m Object)) (more : List (Rung (Operand m Object))) :
    evaluator.chooseFrom {} rung more = evaluator.choose rung more := by
  have nothing : ∀ branch, ({} : BranchSet (Operand m Object)).get branch = [] := by
    intro branch
    cases branch <;> rfl
  cases more <;> simp only [Evaluator.chooseFrom, Evaluator.choose, nothing, resume_nil]

/-- Gathering a value is leaving its step to be met. -/
theorem chooseFrom_push (ends : ∀ branch, EndsSingle (branches.get branch)) (other : Branch)
    (expr condition : Operand m Object) (steps : List (Step (Operand m Object)))
    (more : List (Rung (Operand m Object))) :
    evaluator.chooseFrom (branches.push other expr) ⟨condition, steps⟩ more =
      evaluator.chooseFrom branches ⟨condition, .value other expr :: steps⟩ more := by
  refine chooseFrom_congr (fun branch => ?_) condition more
  rcases branch.eq_or_eq_other other with rfl | rfl
  · rw [push, get_set, resume_push (ends branch)]
  · rw [push_frame, resume_value_other other.ne_other]

/-- Putting operands before a value is leaving their step to be met. -/
theorem chooseFrom_pushDiscarded (other : Branch) (exprs : List (Operand m Object))
    (condition : Operand m Object) (steps : List (Step (Operand m Object)))
    (more : List (Rung (Operand m Object))) :
    evaluator.chooseFrom (branches.pushDiscarded other exprs (.single (return .none)))
        ⟨condition, steps⟩ more =
      evaluator.chooseFrom branches ⟨condition, .discarded other exprs :: steps⟩ more := by
  refine chooseFrom_congr (fun branch => ?_) condition more
  rcases branch.eq_or_eq_other other with rfl | rfl
  · rw [pushDiscarded, get_set, resume_pushDiscarded]
  · rw [pushDiscarded_frame, resume_discarded_other other.ne_other]

end Gathering

section Building

open MarkedTree BranchSet

/-- Branches whose values are no unpacked expressions. -/
def Settled (branches : BranchSet MarkedTree) : Prop :=
  ∀ branch, ∀ last ∈ (branches.get branch).getLast?, last.isStarred = false

/-- Branches for which nothing is gathered are settled. -/
theorem settled_empty : Settled {} := by
  intro branch last member
  cases branch <;> exact nomatch member

/-- An expression that is not unpacked may become the value of a branch. -/
theorem Settled.push {branches : BranchSet MarkedTree} (settled : Settled branches)
    {expr : MarkedTree} (plain : expr.isStarred = false) (other : Branch) :
    Settled (branches.push other expr) := by
  intro branch last member
  rcases branch.eq_or_eq_other other with rfl | rfl
  · rw [BranchSet.push, get_set, List.getLast?_concat] at member
    exact Option.mem_some.mp member ▸ plain
  · rw [push_frame] at member
    exact settled other.other last member

/-- Expressions that are put before the value of a branch leave the value. -/
theorem Settled.pushDiscarded {branches : BranchSet MarkedTree} (settled : Settled branches)
    (other : Branch) (exprs : List MarkedTree) :
    Settled (branches.pushDiscarded other exprs MarkedTree.undefined) := by
  intro branch last member
  rcases branch.eq_or_eq_other other with rfl | rfl
  · rw [BranchSet.pushDiscarded, get_set, List.getLast?_concat, Option.mem_some] at member
    subst member
    rw [List.getLastD_eq_getLast?]
    cases found : (branches.get branch).getLast? with
    | none => rfl
    | some last => exact settled branch last found
  · rw [pushDiscarded_frame] at member
    exact settled other.other last member

/-- The expressions gathered for a branch, each changed. -/
theorem get_map {β γ : Type} (change : β → γ) (branches : BranchSet β) (branch : Branch) :
    (branches.map change).get branch = (branches.get branch).map change := by
  cases branch <;> rfl

variable (evaluator : Evaluator m Object)

/-- The values of settled branches are computations of values. -/
theorem Settled.endsSingle {branches : BranchSet MarkedTree} (settled : Settled branches)
    (branch : Branch) : EndsSingle ((branches.map evaluator.operand).get branch) := by
  intro last member
  rw [get_map, List.getLast?_map] at member
  obtain ⟨expr, found, rfl⟩ := Option.map_eq_some_iff.mp member
  exact evaluator.operand_eq_single (settled branch expr found)

variable [LawfulMonad m]

/-- The expression of a branch comes to what was gathered for it. -/
theorem Settled.value_branch {branches : BranchSet MarkedTree} (settled : Settled branches)
    (branch : Branch) : (evaluator.operand (MarkedTree.branch (branches.get branch))).value =
      resume branch ((branches.map evaluator.operand).get branch) [] := by
  rw [evaluator.value_branch (settled branch), inOrder_eq_resume, get_map]

/-- **The conditional expression of a condition and steps** comes to the ladder that they are, after
what its branches have gathered. -/
theorem operand_build {condition : MarkedTree} {branches : BranchSet MarkedTree}
    {steps : List (Step MarkedTree)} (settled : Settled branches)
    (plain : ∀ branch expr, Step.value branch expr ∈ steps → expr.isStarred = false) :
    evaluator.operand (build condition branches steps) =
      .single (evaluator.chooseFrom (branches.map evaluator.operand)
        ⟨evaluator.operand condition, (rungs (steps.map (Step.map evaluator.operand))).1⟩
        (rungs (steps.map (Step.map evaluator.operand))).2) := by
  fun_induction build condition branches steps with
  | case1 condition branches =>
    rw [evaluator.operand_ifExp]
    congr 1
    simp only [← settled.value_branch evaluator, List.map_nil, rungs, Evaluator.chooseFrom]
    rfl
  | case2 condition branches branch expr later ih =>
    have value := plain branch expr List.mem_cons_self
    rw [ih (settled.push value branch) fun branch expr member =>
      plain branch expr (List.mem_cons_of_mem _ member)]
    rw [map_push, chooseFrom_push (settled.endsSingle evaluator)]
    rfl
  | case3 condition branches branch exprs later ih =>
    rw [ih (settled.pushDiscarded branch exprs) fun branch expr member =>
      plain branch expr (List.mem_cons_of_mem _ member)]
    rw [map_pushDiscarded, evaluator.operand_undefined, chooseFrom_pushDiscarded]
    rfl
  | case4 condition branches inner later ih =>
    have nested := ih settled_empty fun branch expr member =>
      plain branch expr (List.mem_cons_of_mem _ member)
    rw [map_empty, chooseFrom_empty] at nested
    have alternate :
        MarkedTree.branch (branches.replaceAlternate (build inner {} later)).alternate =
          build inner {} later := rfl
    rw [evaluator.operand_ifExp, alternate, nested]
    congr 1
    simp only [List.map_cons, Step.map, rungs, Evaluator.chooseFrom, Operand.value_single,
      ← settled.value_branch evaluator]
    rfl

/-- **The conditional expression of a chain** comes to what the chain comes to. -/
theorem operand_conditional {chain : Chain Bool MarkedTree} (plain : chain.Plain) :
    evaluator.operand (conditional chain) =
      .single (evaluator.runChain (chain.map id evaluator.operand)) := by
  rw [conditional, operand_build evaluator settled_empty plain, map_empty, chooseFrom_empty]
  rfl

end Building

end IfChains
