/-
**Laws of chains.**

The conditional expression of a chain depends on its steps only by what each branch is fed between
two `else_if`s. So steps that feed different branches may change places, discarded expressions may
be split between steps, and what follows an `else_if` may be written as a chain of its own, which is
the value of the alternate branch; what that branch was fed before is dropped.

* `get_foldl_feed`: what steps feed a branch;
* `build_interleaved`, `build_split`, `build_elseIf`: the laws, for conditional expressions;
* `Step.Rearranged`: steps that have changed places, or one of which is split;
* `Proper.rearranged`, `Proper.desugared`: the laws keep chains proper.
-/

import IfChains.Proofs.Chain.Written

namespace IfChains

open IfChains.Tree

namespace Step

variable {β γ : Type}

/-- The branch that a step feeds; an `else_if` feeds none. -/
def branch? : Step β → Option Branch
  | value branch _ => some branch
  | discarded branch _ => some branch
  | elseIf _ => none

/-- Whether a step feeds a branch. -/
def feeds (branch : Branch) (step : Step β) : Bool :=
  step.branch? = some branch

theorem branch?_map (change : β → γ) (step : Step β) :
    (step.map change).branch? = step.branch? := by
  cases step <;> rfl

theorem feeds_map (change : β → γ) (branch : Branch) (step : Step β) :
    (step.map change).feeds branch = step.feeds branch := by
  rw [feeds, feeds, branch?_map]

/-- The steps of a list that feed a branch, with their expressions changed. -/
theorem filter_feeds_map (change : β → γ) (branch : Branch) (steps : List (Step β)) :
    (steps.map (map change)).filter (feeds branch) =
      (steps.filter (feeds branch)).map (map change) := by
  rw [List.filter_map]
  congr 2
  funext step
  exact feeds_map change branch step

/-- Steps without an `else_if` among them. -/
def Flat (steps : List (Step β)) : Prop :=
  ∀ step ∈ steps, step.branch?.isSome

instance (steps : List (Step β)) : Decidable (Flat steps) :=
  inferInstanceAs (Decidable (∀ step ∈ steps, step.branch?.isSome))

theorem Flat.map (change : β → γ) {steps : List (Step β)} (flat : Flat steps) :
    Flat (steps.map (Step.map change)) := by
  rw [Flat, List.forall_mem_map]
  intro step member
  rw [branch?_map]
  exact flat step member

/-- Steps that feed branches are among those that feed the branches alike. -/
theorem subset_of_feeds {steps steps' : List (Step β)} (flat : Flat steps)
    (same : ∀ branch, steps.filter (feeds branch) = steps'.filter (feeds branch)) :
    steps ⊆ steps' := by
  intro step member
  obtain ⟨branch, fed⟩ := Option.isSome_iff_exists.mp (flat step member)
  have among : step ∈ steps.filter (feeds branch) :=
    List.mem_filter.mpr ⟨member, decide_eq_true fed⟩
  exact List.mem_of_mem_filter (same branch ▸ among)

/-- **Steps rearranged.** In a stretch without an `else_if`, steps that feed one branch change
places with steps that feed the other one, or what one step discards is discarded by two. -/
inductive Rearranged : List (Step β) → List (Step β) → Prop
  | interleaved (before stretch stretch' later : List (Step β))
      (flat : Flat stretch) (flat' : Flat stretch')
      (same : ∀ branch, stretch.filter (feeds branch) = stretch'.filter (feeds branch)) :
      Rearranged (before ++ stretch ++ later) (before ++ stretch' ++ later)
  | split (before : List (Step β)) (branch : Branch) (first second : List β)
      (later : List (Step β)) :
      Rearranged (before ++ discarded branch (first ++ second) :: later)
        (before ++ discarded branch first :: discarded branch second :: later)

/-- Steps are rearranged whatever their expressions are changed to. -/
theorem Rearranged.map (change : β → γ) {steps steps' : List (Step β)}
    (rearranged : Rearranged steps steps') :
    Rearranged (steps.map (Step.map change)) (steps'.map (Step.map change)) := by
  cases rearranged with
  | interleaved before stretch stretch' later flat flat' same =>
    simp only [List.map_append]
    refine .interleaved _ _ _ _ (flat.map change) (flat'.map change) fun branch => ?_
    rw [filter_feeds_map, filter_feeds_map, same branch]
  | split before branch first second later =>
    simp only [List.map_append, List.map_cons, Step.map]
    exact .split _ branch _ _ _

end Step

namespace BranchSet

variable {α : Type}

/-- Branches that hold the same are the same. -/
theorem ext_get {first second : BranchSet α}
    (same : ∀ branch, first.get branch = second.get branch) : first = second := by
  obtain ⟨consequent, alternate⟩ := first
  obtain ⟨consequent', alternate'⟩ := second
  obtain rfl : consequent = consequent' := same .consequent
  obtain rfl : alternate = alternate' := same .alternate
  rfl

/-- Putting expressions before a value at once is putting some of them there first, and then the
others. -/
theorem pushDiscarded_append (branches : BranchSet α) (branch : Branch) (first second : List α)
    (undefined : α) :
    (branches.pushDiscarded branch first undefined).pushDiscarded branch second undefined =
      branches.pushDiscarded branch (first ++ second) undefined := by
  cases branch <;> simp [pushDiscarded, get, set]

end BranchSet

namespace MarkedTree

variable {condition inner : MarkedTree} {branches : BranchSet MarkedTree}
  {steps steps' before later later' : List (Step MarkedTree)}

section Feeding

/-- What a branch holds once a step has fed it. -/
def extend (items : List MarkedTree) : Step MarkedTree → List MarkedTree
  | .value _ expr => items ++ [expr]
  | .discarded _ exprs => items.dropLast ++ exprs ++ [items.getLastD undefined]
  | .elseIf _ => items

/-- The branches once a step has fed one of them. -/
def feed (branches : BranchSet MarkedTree) : Step MarkedTree → BranchSet MarkedTree
  | .value branch expr => branches.push branch expr
  | .discarded branch exprs => branches.pushDiscarded branch exprs undefined
  | .elseIf _ => branches

/-- A step extends the branch that it feeds, and leaves the other one alone. -/
theorem get_feed (branch : Branch) (step : Step MarkedTree) :
    (feed branches step).get branch =
      if step.feeds branch then extend (branches.get branch) step else branches.get branch := by
  -- Either the step feeds this branch, or it feeds the other one.
  cases step with
  | value fed expr => cases branch <;> cases fed <;> rfl
  | discarded fed exprs => cases branch <;> cases fed <;> rfl
  | elseIf inner => rfl

/-- **What steps feed a branch** depends on those of them that feed it. -/
theorem get_foldl_feed (branch : Branch) (steps : List (Step MarkedTree)) :
    (steps.foldl feed branches).get branch =
      (steps.filter (Step.feeds branch)).foldl extend (branches.get branch) := by
  induction steps generalizing branches with
  | nil => rfl
  | cons step rest ih =>
    rw [List.foldl_cons, ih, get_feed, List.filter_cons]
    split <;> rfl

/-- Steps feed the branches alike if they feed each of them alike. -/
theorem foldl_feed_congr
    (same : ∀ branch, steps.filter (Step.feeds branch) = steps'.filter (Step.feeds branch)) :
    steps.foldl feed branches = steps'.foldl feed branches := by
  refine BranchSet.ext_get fun branch => ?_
  rw [get_foldl_feed, get_foldl_feed, same branch]

/-- Steps up to an `else_if` feed the branches before the steps that follow. -/
theorem build_append (flat : Step.Flat steps) :
    build condition branches (steps ++ later) =
      build condition (steps.foldl feed branches) later := by
  induction steps generalizing branches with
  | nil => rfl
  | cons step rest ih =>
    obtain ⟨here, rest⟩ := List.forall_mem_cons.mp flat
    cases step with
    | value fed expr => exact ih rest
    | discarded fed exprs => exact ih rest
    | elseIf other => exact absurd here Bool.false_ne_true

end Feeding

section Conditionals

/-- What follows some steps may be replaced by what leads to the same conditional expression. -/
theorem build_prefix (same : ∀ condition branches,
    build condition branches later = build condition branches later')
    (before : List (Step MarkedTree)) (condition : MarkedTree) (branches : BranchSet MarkedTree) :
    build condition branches (before ++ later) = build condition branches (before ++ later') := by
  induction before generalizing condition branches with
  | nil => exact same condition branches
  | cons step rest ih =>
    cases step with
    | value branch expr => exact ih _ _
    | discarded branch exprs => exact ih _ _
    | elseIf inner =>
      rw [List.cons_append, List.cons_append, build, build, ih]

/-- **The branches do not interfere**: steps may change places if each branch is fed by the same
steps in the same order. -/
theorem build_interleaved (flat : Step.Flat steps) (flat' : Step.Flat steps')
    (same : ∀ branch, steps.filter (Step.feeds branch) = steps'.filter (Step.feeds branch)) :
    build condition branches (steps ++ later) = build condition branches (steps' ++ later) := by
  rw [build_append flat, build_append flat', foldl_feed_congr same]

/-- **Discarded expressions may be split** between two steps. -/
theorem build_split (branch : Branch) (first second : List MarkedTree) :
    build condition branches (.discarded branch (first ++ second) :: later) =
      build condition branches (.discarded branch first :: .discarded branch second :: later) := by
  rw [build, build, build, BranchSet.pushDiscarded_append]

/-- **An `else_if` is a chain of its own**, which is the value of the alternate branch: what that
branch was fed before is dropped. -/
theorem build_elseIf (flat : Step.Flat before) :
    build condition {} (before ++ .elseIf inner :: later) =
      build condition {} (before.filter (Step.feeds .consequent) ++
        [.value .alternate (build inner {} later)]) := by
  have kept : Step.Flat (before.filter (Step.feeds .consequent)) :=
    fun step member => flat step (List.mem_of_mem_filter member)
  rw [build_append flat, build_append kept, build, build, build]
  refine congrArg (ifExp condition) (BranchSet.ext_get fun branch => ?_)
  cases branch with
  | consequent =>
    show (before.foldl feed {}).get .consequent =
      ((before.filter (Step.feeds .consequent)).foldl feed {}).get .consequent
    rw [get_foldl_feed, get_foldl_feed, List.filter_filter]
    simp only [Bool.and_self]
  | alternate =>
    -- No step that is left feeds the alternate branch.
    have none : (before.filter (Step.feeds .consequent)).filter (Step.feeds .alternate) = [] := by
      rw [List.filter_filter, List.filter_eq_nil_iff]
      intro step _ both
      simp only [Step.feeds, Bool.and_eq_true, decide_eq_true_eq] at both
      exact Branch.noConfusion (Option.some.inj (both.1.symm.trans both.2))
    show [build inner {} later] = ((before.filter (Step.feeds .consequent)).foldl feed {}).get
      .alternate ++ [build inner {} later]
    rw [get_foldl_feed, none]
    rfl

end Conditionals

section Rearranging

/-- **Chains with rearranged steps** have the same conditional expression. -/
theorem build_rearranged (rearranged : Step.Rearranged steps steps') :
    build condition branches steps = build condition branches steps' := by
  cases rearranged with
  | interleaved before stretch stretch' later flat flat' same =>
    rw [List.append_assoc, List.append_assoc]
    exact build_prefix (fun _ _ => build_interleaved flat flat' same) before _ _
  | split before branch first second later =>
    exact build_prefix (fun _ _ => build_split branch first second) before _ _

/-- What a step discards may be any expressions in which the names open chains. -/
theorem properStep_discarded {branch : Branch} {exprs : List MarkedTree}
    (opens : ∀ expr ∈ exprs, Opens [] expr) : ProperStep (.discarded branch exprs) :=
  ⟨by cases branch <;> rfl, opens⟩

/-- **A chain with rearranged steps** is as proper as before. -/
theorem Proper.rearranged (proper : Proper ⟨true, condition, steps⟩)
    (rearranged : Step.Rearranged steps steps') : Proper ⟨true, condition, steps'⟩ := by
  refine ⟨proper.single, proper.opens, ?_⟩
  have sound := proper.steps
  cases rearranged with
  | interleaved before stretch stretch' later flat flat' same =>
    have among : stretch' ⊆ stretch := Step.subset_of_feeds flat' fun branch => (same branch).symm
    simp only [List.forall_mem_append] at sound ⊢
    obtain ⟨⟨above, inside⟩, below⟩ := sound
    exact ⟨⟨above, fun step member => inside step (among member)⟩, below⟩
  | split before branch first second later =>
    simp only [List.forall_mem_append, List.forall_mem_cons] at sound ⊢
    obtain ⟨above, ⟨-, opens⟩, below⟩ := sound
    obtain ⟨opens, opens'⟩ := List.forall_mem_append.mp opens
    exact ⟨above, properStep_discarded opens, properStep_discarded opens', below⟩

end Rearranging

section Nesting

/-- What follows an `else_if` is as proper a chain as the one it is in. -/
theorem Proper.nested (proper : Proper ⟨true, condition, before ++ .elseIf inner :: later⟩) :
    Proper ⟨true, inner, later⟩ := by
  obtain ⟨-, sequel⟩ := List.forall_mem_append.mp proper.steps
  obtain ⟨here, below⟩ := List.forall_mem_cons.mp sequel
  exact ⟨Step.isStarred_of_admits rfl rfl here.admitted, here.opens inner List.mem_cons_self,
    below⟩

/-- The steps of a chain with an `else_if` that is written as a chain of its own: those before it
that feed the consequent branch, and the value of the alternate branch. -/
def desugared (name : String) (before : List (Step MarkedTree)) (inner : MarkedTree)
    (later : List (Step MarkedTree)) (ending : Continuation) : List (Step MarkedTree) :=
  before.filter (Step.feeds .consequent) ++
    [.value .alternate (written name ⟨true, inner, later⟩ ending)]

variable {name : String} {ending : Continuation}

/-- **A chain whose `else_if` is written as a chain of its own** is as proper as before. -/
theorem Proper.desugared (proper : Proper ⟨true, condition, before ++ .elseIf inner :: later⟩)
    (terminal : ending.isTerminal = true) :
    Proper ⟨true, condition, desugared name before inner later ending⟩ := by
  obtain ⟨above, -⟩ := List.forall_mem_append.mp proper.steps
  refine ⟨proper.single, proper.opens, List.forall_mem_append.mpr ⟨fun step member => ?_, ?_⟩⟩
  · exact above step (List.mem_of_mem_filter member)
  · have opens : Opens [] (written name ⟨true, inner, later⟩ ending) :=
      (opens_written_iff rfl terminal).mpr proper.nested
    exact List.forall_mem_singleton.mpr ⟨rfl, List.forall_mem_singleton.mpr opens⟩

/-- It has the same conditional expression. -/
theorem Proper.build_desugared
    (proper : Proper ⟨true, condition, before ++ .elseIf inner :: later⟩)
    (terminal : ending.isTerminal = true) (flat : Step.Flat before) :
    build (expand condition) {} ((before ++ .elseIf inner :: later).map (Step.map expand)) =
      build (expand condition) {}
        ((MarkedTree.desugared name before inner later ending).map (Step.map expand)) := by
  rw [MarkedTree.desugared, List.map_append, List.map_append, ← Step.filter_feeds_map,
    List.map_cons, List.map_singleton, Step.map, Step.map,
    proper.nested.expand_written rfl terminal]
  exact build_elseIf (flat.map expand)

end Nesting

end MarkedTree

end IfChains
