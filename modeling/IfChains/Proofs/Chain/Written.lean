/-
**Chains written down.**

A chain is written as its head, which is called with its condition, and the call of a member for
each of its steps and for its end. What is written is read back, and it expands to the conditional
expression of the chain. Wherever it stands, its names open chains exactly if the condition and the
single arguments of its steps are expressions of their own, and the names in its expressions open
chains.

* `written`: the tree of a chain;
* `ofTree?_written`: what is read back from it;
* `Proper`, `opens_written_iff`: when its names open chains;
* `Proper.expand_written`: what it expands to.
-/

import IfChains.Proofs.Chain.Opening

namespace IfChains

open IfChains.Tree

namespace Step

variable {α β : Type}

/-- The continuation that adds a step to a chain. -/
def continuation : Step β → Continuation
  | value .consequent _ => .andThen
  | value .alternate _ => .orElse
  | discarded .consequent _ => .thenDo
  | discarded .alternate _ => .elseDo
  | elseIf _ => .elseIf

/-- Whether the expressions of a step may be the arguments of its continuation. -/
def admitted (step : Step (Tree α)) : Bool :=
  step.continuation.admits step.exprs

/-- A step does not end its chain. -/
theorem isTerminal_continuation (step : Step β) : step.continuation.isTerminal = false := by
  rcases step with ⟨_ | _, _⟩ | ⟨_ | _, _⟩ | _ <;> rfl

/-- The argument of a continuation that takes a single one is not unpacked. -/
theorem isStarred_of_admits {continuation : Continuation} {expr : Tree α}
    (goesOn : continuation.isTerminal = false) (takes : continuation.takesSingle = true)
    (admits : continuation.admits [expr] = true) : expr.isStarred = false := by
  rw [Continuation.admits, goesOn, takes] at admits
  simpa [isSingle] using admits

/-- A step is what its continuation adds. -/
theorem of?_continuation {step : Step (Tree α)} (admitted : step.admitted = true) :
    of? step.continuation step.exprs = some step := by
  rcases step with ⟨_ | _, expr⟩ | ⟨_ | _, exprs⟩ | condition
  · exact if_neg (Bool.eq_false_iff.mp (isStarred_of_admits rfl rfl admitted))
  · exact if_neg (Bool.eq_false_iff.mp (isStarred_of_admits rfl rfl admitted))
  · rfl
  · rfl
  · exact if_neg (Bool.eq_false_iff.mp (isStarred_of_admits rfl rfl admitted))

end Step

namespace MarkedTree

section Writing

/-- A call with positional arguments of what is in its hole. -/
def callWith (arguments : List MarkedTree) : Frame Bool :=
  ⟨false, .call, [], .func, arguments.map fun argument => (.args, argument)⟩

/-- The member of what is in its hole that names a continuation. -/
def memberOf (continuation : Continuation) : Frame Bool :=
  ⟨false, .member continuation.keyword .load, [], .value, []⟩

/-- The call of a continuation. -/
def continued (before : MarkedTree) (continuation : Continuation) (arguments : List MarkedTree) :
    MarkedTree :=
  (callWith arguments).fill ((memberOf continuation).fill before)

/-- The call of the head of a chain. -/
def headCall (name : String) (chain : Chain Bool MarkedTree) : MarkedTree :=
  (callWith [chain.condition]).fill (.node chain.head (.name name .load) [])

/-- **The tree of a chain**, given the name of its head and the continuation that ends it. -/
def written (name : String) (chain : Chain Bool MarkedTree) (ending : Continuation) : MarkedTree :=
  continued (chain.steps.foldl (fun before step => continued before step.continuation step.exprs)
    (headCall name chain)) ending []

end Writing

section Reading

variable {arguments : List MarkedTree} {before tree : MarkedTree} {chain : Chain Bool MarkedTree}
  {continuation : Continuation}

theorem isCall_callWith : Chain.IsCall (callWith arguments) := ⟨rfl, rfl, rfl⟩

@[simp]
theorem args_callWith : (callWith arguments).others .args = arguments := by
  simp [Frame.others, callWith, inRole]

@[simp]
theorem keywords_callWith : (callWith arguments).others .keywords = [] := by
  simp [Frame.others, callWith, inRole]

/-- What is called by the call of a continuation. -/
theorem callee?_memberOf (read : Chain.upTo? before = some chain) :
    Chain.callee? ((memberOf continuation).fill before) = some (.member chain continuation) := by
  have found := Chain.callee?_member false continuation.keyword .load before
  rw [read, Option.bind_some, Continuation.ofKeyword?_keyword, Option.map_some] at found
  exact found

/-- The chain up to the call of its head. -/
theorem upTo?_headCall {name : String} (single : chain.condition.isStarred = false) :
    Chain.upTo? (headCall name chain) = some { chain with steps := [] } := by
  rw [headCall, Chain.upTo?_call isCall_callWith, args_callWith, keywords_callWith]
  exact if_neg (Bool.eq_false_iff.mp single)

/-- The chain up to the call of a step. -/
theorem upTo?_continued {step : Step MarkedTree} (read : Chain.upTo? before = some chain)
    (admitted : step.admitted = true) :
    Chain.upTo? (continued before step.continuation step.exprs) = some (chain.goOn step) := by
  rw [continued, Chain.upTo?_call isCall_callWith, callee?_memberOf read, args_callWith,
    keywords_callWith, Option.bind_some]
  show (Step.of? step.continuation step.exprs).map chain.goOn = _
  rw [Step.of?_continuation admitted, Option.map_some]

/-- The chain up to the calls of some steps. -/
theorem upTo?_foldl {steps : List (Step MarkedTree)} (read : Chain.upTo? before = some chain)
    (admitted : ∀ step ∈ steps, step.admitted = true) :
    Chain.upTo? (steps.foldl
      (fun before step => continued before step.continuation step.exprs) before) =
      some { chain with steps := chain.steps ++ steps } := by
  induction steps generalizing before chain with
  | nil =>
    rw [List.append_nil]
    exact read
  | cons step later ih =>
    obtain ⟨here, rest⟩ := List.forall_mem_cons.mp admitted
    rw [List.foldl_cons, ih (upTo?_continued read here) rest]
    simp [Chain.goOn]

/-- **What is written is read back.** -/
theorem ofTree?_written {name : String} {ending : Continuation}
    (single : chain.condition.isStarred = false)
    (admitted : ∀ step ∈ chain.steps, step.admitted = true) (terminal : ending.isTerminal = true) :
    Chain.ofTree? (written name chain ending) = some chain := by
  have read := upTo?_foldl (@upTo?_headCall chain name single) admitted
  rw [written, continued, Chain.ofTree?_call isCall_callWith, callee?_memberOf read,
    args_callWith, keywords_callWith, Option.bind_some]
  exact if_pos terminal

end Reading

section Opening

variable {context : Context Bool} {arguments : List MarkedTree} {before callee tree : MarkedTree}
  {chain : Chain Bool MarkedTree} {continuation : Continuation}

/-- A call is judged by what it calls, and by its arguments one by one. -/
theorem opens_callWith : Opens context ((callWith arguments).fill callee) ↔
    Opens (callWith arguments :: context) callee ∧ ∀ argument ∈ arguments, Opens [] argument := by
  unfold callWith Frame.fill
  rw [opens_node]
  simp only [List.nil_append]
  constructor
  · rintro ⟨-, children⟩
    refine ⟨children [] .func callee _ rfl, fun argument member => ?_⟩
    obtain ⟨before, after, rfl⟩ := List.append_of_mem member
    have inside := children ((.func, callee) :: before.map fun argument => (.args, argument)) .args
      argument (after.map fun argument => (.args, argument)) (by simp)
    exact (opens_argument_iff rfl rfl).mp inside
  · rintro ⟨called, opens⟩
    refine ⟨fun marked => absurd marked Bool.false_ne_true, fun before role child after same => ?_⟩
    cases before with
    | nil =>
      obtain ⟨slot, rfl⟩ := List.cons.inj same
      obtain ⟨rfl, rfl⟩ := Prod.mk.inj slot
      exact called
    | cons slot before =>
      obtain ⟨rfl, rest⟩ := List.cons.inj same
      have member : (role, child) ∈ arguments.map fun argument => (Role.args, argument) :=
        rest ▸ List.mem_append_right _ List.mem_cons_self
      obtain ⟨argument, among, taken⟩ := List.mem_map.mp member
      obtain ⟨rfl, rfl⟩ := Prod.mk.inj taken
      exact (opens_argument_iff rfl rfl).mpr (opens argument among)

/-- A member is judged by what it is a member of. -/
theorem opens_memberOf : Opens context ((memberOf continuation).fill before) ↔
    Opens (memberOf continuation :: context) before := by
  unfold memberOf Frame.fill
  rw [opens_node]
  constructor
  · rintro ⟨-, children⟩
    exact children [] .value before [] rfl
  · intro opens
    refine ⟨fun marked => absurd marked Bool.false_ne_true, fun above role child after same => ?_⟩
    cases above with
    | nil =>
      obtain ⟨slot, rfl⟩ := List.cons.inj same
      obtain ⟨rfl, rfl⟩ := Prod.mk.inj slot
      exact opens
    | cons slot above => exact absurd (List.cons.inj same).2.symm (by simp)

/-- The call of a continuation is judged by what comes before it, and by its arguments. -/
theorem opens_continued : Opens context (continued before continuation arguments) ↔
    Opens (memberOf continuation :: callWith arguments :: context) before ∧
      ∀ argument ∈ arguments, Opens [] argument := by
  rw [continued, opens_callWith, opens_memberOf]

/-- The members and calls of some steps, from the inside out. -/
def around (steps : List (Step MarkedTree)) : Context Bool :=
  steps.flatMap fun step => [memberOf step.continuation, callWith step.exprs]

/-- The calls of some steps are judged by what comes before them, and by their expressions. -/
theorem opens_foldl {steps : List (Step MarkedTree)} :
    Opens context (steps.foldl
      (fun before step => continued before step.continuation step.exprs) before) ↔
      Opens (around steps ++ context) before ∧
        ∀ step ∈ steps, ∀ expr ∈ step.exprs, Opens [] expr := by
  induction steps generalizing before with
  | nil => simp [around]
  | cons step later ih =>
    rw [List.foldl_cons, ih, opens_continued, List.forall_mem_cons, and_assoc]
    rfl

/-- A call with positional arguments is one without keyword arguments. -/
theorem isPlainCall_callWith : (callWith arguments).isPlainCall = true := by
  rw [Frame.isPlainCall, keywords_callWith]
  rfl

/-- Climbing to the call of a continuation. -/
theorem endsChain_call (outer : Context Bool) :
    Context.endsChain (memberOf continuation :: callWith arguments :: outer) =
      (continuation.admits arguments &&
        (continuation.isTerminal || Context.endsChain outer)) := by
  have label : (memberOf continuation).label = .member continuation.keyword .load := rfl
  rw [Context.endsChain, label]
  simp only [Continuation.ofKeyword?_keyword, isPlainCall_callWith, args_callWith, Bool.true_and]

/-- Climbing from steps one comes to the end of their chain if they are admitted. -/
theorem endsChain_around {steps : List (Step MarkedTree)} (outer : Context Bool) :
    Context.endsChain (around steps ++ outer) =
      (steps.all Step.admitted && Context.endsChain outer) := by
  induction steps with
  | nil => rfl
  | cons step later ih =>
    have unfolded : around (step :: later) ++ outer = memberOf step.continuation ::
      callWith step.exprs :: (around later ++ outer) := rfl
    rw [unfolded, endsChain_call, Step.isTerminal_continuation, Bool.false_or, ih, List.all_cons,
      Bool.and_assoc]
    rfl

/-- A step whose names open chains wherever it is written: its expressions may be the arguments of
its continuation, and the names in them open chains. -/
structure ProperStep (step : Step MarkedTree) : Prop where
  admitted : step.admitted = true
  opens : ∀ expr ∈ step.exprs, Opens [] expr

/-- A chain whose names open chains wherever it is written: so do the names in its condition, which
is a single argument, and in its steps. -/
structure Proper (chain : Chain Bool MarkedTree) : Prop where
  single : chain.condition.isStarred = false
  opens : Opens [] chain.condition
  steps : ∀ step ∈ chain.steps, ProperStep step

/-- **The names of a written chain open chains** exactly if the chain is proper, wherever it
stands. -/
theorem opens_written_iff {name : String} {ending : Continuation} (marked : chain.head = true)
    (terminal : ending.isTerminal = true) :
    Opens context (written name chain ending) ↔ Proper chain := by
  have ends : Context.endsChain (memberOf ending :: callWith [] :: context) = true := by
    rw [endsChain_call, terminal, Continuation.admits, terminal]
    rfl
  have head : ∀ above : Context Bool, Opens above (.node chain.head (.name name .load) []) ↔
      Context.opensChain above = true := by
    intro above
    rw [opens_node, marked]
    simp
  rw [written, opens_continued, opens_foldl, headCall, opens_callWith, head, Context.opensChain,
    isPlainCall_callWith, args_callWith, endsChain_around, ends]
  simp only [isSingle, Bool.true_and, Bool.and_true, Bool.and_eq_true, Bool.not_eq_true',
    List.all_eq_true, List.forall_mem_singleton]
  constructor
  · rintro ⟨⟨⟨⟨single, admitted⟩, condition⟩, steps⟩, -⟩
    exact ⟨single, condition, fun step among => ⟨admitted step among, steps step among⟩⟩
  · rintro ⟨single, condition, steps⟩
    exact ⟨⟨⟨⟨single, fun step among => (steps step among).admitted⟩, condition⟩,
      fun step among => (steps step among).opens⟩, fun _ absent => absurd absent List.not_mem_nil⟩

/-- **What is written expands** to the conditional expression of its expanded expressions. -/
theorem Proper.expand_written {name : String} {ending : Continuation} (proper : Proper chain)
    (marked : chain.head = true) (terminal : ending.isTerminal = true) :
    expand (written name chain ending) =
      build (expand chain.condition) {} (chain.steps.map (Step.map expand)) := by
  have admitted : ∀ step ∈ chain.steps, step.admitted = true :=
    fun step among => (proper.steps step among).admitted
  exact expand_of_chain (ofTree?_written proper.single admitted terminal) marked

end Opening

end MarkedTree

end IfChains
