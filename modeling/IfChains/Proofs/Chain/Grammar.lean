/-
**What a chain is, in a tree.**

A chain begins at a name that is called with a condition and goes on through calls of members. Read
downwards from the call of its end it is a `Chain`: the tag of the name, the condition, and what
each continuation adds. Read upwards from the name it is a property of the nodes around the name,
which are met in the order of the chain.

* `Chain.ofTree?`: the chain that ends at a node; `Chain.upTo?`: the chain up to a node after which
  it goes on;
* `Context.opensChain`: climbing from a name, one meets the calls of a chain up to its end;
* `opensChain_congr`: whether a name opens a chain does not depend on the insides of arguments.
-/

import IfChains.Chain.Branches
import IfChains.Proofs.Syntax.Context
import Mathlib.Data.List.Induction

namespace IfChains

open IfChains.Tree

/-- What a continuation adds to a chain. -/
inductive Step (β : Type)
  /-- An expression that becomes the value of a branch. -/
  | value (branch : Branch) (expr : β)
  /-- Expressions that are evaluated before the value of a branch. -/
  | discarded (branch : Branch) (exprs : List β)
  /-- The condition of the conditional that is the whole alternate branch. -/
  | elseIf (condition : β)
deriving DecidableEq, Repr

/-- A chain: its head, the condition its head is called with, and its steps in order. -/
structure Chain (α β : Type) where
  head : α
  condition : β
  steps : List (Step β)
deriving DecidableEq, Repr

section Arguments

variable {α β : Type}

/-- Whether there is one argument, and it is an expression of its own. -/
def isSingle : List (Tree α) → Bool
  | [argument] => !argument.isStarred
  | _ => false

/-- Whether a continuation may be called with some positional arguments. -/
def Continuation.admits (continuation : Continuation) (arguments : List (Tree α)) : Bool :=
  if continuation.isTerminal then arguments.isEmpty
  else if continuation.takesSingle then isSingle arguments
  else true

namespace Step

variable {γ : Type}

/-- The step with its expressions changed. -/
def map (change : β → γ) : Step β → Step γ
  | value branch expr => value branch (change expr)
  | discarded branch exprs => discarded branch (exprs.map change)
  | elseIf condition => elseIf (change condition)

/-- What a continuation that goes on adds to a chain, if its arguments allow it. -/
def of? (continuation : Continuation) (arguments : List (Tree α)) : Option (Step (Tree α)) :=
  match continuation, arguments with
  | .andThen, [argument] => if argument.isStarred then none else some (.value .consequent argument)
  | .orElse, [argument] => if argument.isStarred then none else some (.value .alternate argument)
  | .elseIf, [argument] => if argument.isStarred then none else some (.elseIf argument)
  | .thenDo, arguments => some (.discarded .consequent arguments)
  | .elseDo, arguments => some (.discarded .alternate arguments)
  | _, _ => none

/-- The expressions of a step. -/
def exprs : Step β → List β
  | value _ expr => [expr]
  | discarded _ exprs => exprs
  | elseIf condition => [condition]

/-- The expressions of a step are the arguments of its continuation. -/
theorem exprs_of_of? {continuation : Continuation} {arguments : List (Tree α)}
    {step : Step (Tree α)} (found : of? continuation arguments = some step) :
    step.exprs = arguments := by
  unfold of? at found
  split at found <;> simp_all [exprs] <;> obtain ⟨-, rfl⟩ := found <;> rfl

/-- A continuation that ends a chain adds nothing. -/
theorem of?_terminal {continuation : Continuation} (terminal : continuation.isTerminal = true)
    (arguments : List (Tree α)) : of? continuation arguments = none := by
  cases continuation <;> first | rfl | exact nomatch terminal

/-- A continuation that goes on adds a step exactly when it admits its arguments. -/
theorem isSome_of? {continuation : Continuation} (goesOn : continuation.isTerminal = false)
    (arguments : List (Tree α)) :
    (of? continuation arguments).isSome = continuation.admits arguments := by
  have single : ∀ (step : Tree α → Step (Tree α)) (argument : Tree α),
      (if argument.isStarred then none else some (step argument)).isSome = !argument.isStarred := by
    intro step argument
    cases argument.isStarred <;> rfl
  rw [Continuation.admits, goesOn, if_neg Bool.false_ne_true]
  cases continuation with
  | finish => exact nomatch goesOn
  | finishMarked => exact nomatch goesOn
  | thenDo => rfl
  | elseDo => rfl
  | andThen | orElse | elseIf =>
    match arguments with
    | [] => rfl
    | [argument] => exact single _ argument
    | _ :: _ :: _ => rfl

end Step

namespace Chain

variable {γ δ : Type}

/-- The chain with its head and its expressions changed. -/
def map (onHead : α → γ) (onExpr : β → δ) (chain : Chain α β) : Chain γ δ :=
  ⟨onHead chain.head, onExpr chain.condition, chain.steps.map (Step.map onExpr)⟩

/-- The chain with a further step. -/
def goOn (chain : Chain α β) (step : Step β) : Chain α β :=
  { chain with steps := chain.steps ++ [step] }

/-- The expressions of a chain. -/
def exprs (chain : Chain α β) : List β :=
  chain.condition :: chain.steps.flatMap Step.exprs

/-- Changing the head and the expressions twice is changing them once. -/
theorem map_map {α' β' : Type} (onHead : α → γ) (onExpr : β → δ) (onHead' : γ → α')
    (onExpr' : δ → β') (chain : Chain α β) : (chain.map onHead onExpr).map onHead' onExpr' =
      chain.map (onHead' ∘ onHead) (onExpr' ∘ onExpr) := by
  have steps : Step.map onExpr' ∘ Step.map onExpr = Step.map (onExpr' ∘ onExpr) := by
    funext step
    cases step <;> simp [Step.map]
  simp [map, steps]

/-- Changes that agree on the head and the expressions. -/
theorem map_congr {onHead onHead' : α → γ} {onExpr onExpr' : β → δ} {chain : Chain α β}
    (head : onHead chain.head = onHead' chain.head)
    (exprs : ∀ expr ∈ chain.exprs, onExpr expr = onExpr' expr) :
    chain.map onHead onExpr = chain.map onHead' onExpr' := by
  have condition := exprs chain.condition List.mem_cons_self
  have steps : chain.steps.map (Step.map onExpr) = chain.steps.map (Step.map onExpr') := by
    refine List.map_congr_left fun step member => ?_
    have inside : ∀ expr ∈ step.exprs, onExpr expr = onExpr' expr := fun expr beneath =>
      exprs expr (List.mem_cons_of_mem _ (List.mem_flatMap.mpr ⟨step, member, beneath⟩))
    cases step with
    | value branch expr => exact congrArg _ (inside expr List.mem_cons_self)
    | discarded branch exprs => exact congrArg _ (List.map_congr_left inside)
    | elseIf condition => exact congrArg _ (inside condition List.mem_cons_self)
  rw [map, map, head, condition, steps]

end Chain

end Arguments

section Downwards

variable {α β : Type}

/-- What is called: the head of a chain, or a member that continues one. -/
inductive Callee (α : Type)
  | head (tag : α)
  | member (chain : Chain α (Tree α)) (continuation : Continuation)

namespace Callee

/-- The chain up to a call, given the arguments and the keywords. -/
def called? : Callee α → (arguments keywords : List (Tree α)) → Option (Chain α (Tree α))
  | head tag, [condition], [] => if condition.isStarred then none else some ⟨tag, condition, []⟩
  | member chain continuation, arguments, [] => (Step.of? continuation arguments).map chain.goOn
  | _, _, _ => none

/-- The chain that a call ends, given the arguments and the keywords. -/
def ended? : Callee α → (arguments keywords : List (Tree α)) → Option (Chain α (Tree α))
  | member chain continuation, [], [] => if continuation.isTerminal then some chain else none
  | _, _, _ => none

/-- A call ends a chain exactly if it calls a member that ends it, without arguments. -/
theorem ended?_eq_some {callee : Callee α} {arguments keywords : List (Tree α)}
    {chain : Chain α (Tree α)} : callee.ended? arguments keywords = some chain ↔
      ∃ continuation, callee = member chain continuation ∧ continuation.isTerminal = true ∧
        arguments = [] ∧ keywords = [] := by
  constructor
  · intro ended
    unfold ended? at ended
    split at ended
    · rw [Option.ite_none_right_eq_some] at ended
      obtain ⟨terminal, same⟩ := ended
      cases same
      exact ⟨_, rfl, terminal, rfl, rfl⟩
    · exact nomatch ended
  · rintro ⟨continuation, rfl, terminal, rfl, rfl⟩
    exact if_pos terminal

/-- A member that ends a chain is not called for it to go on. -/
theorem called?_terminal {chain : Chain α (Tree α)} {continuation : Continuation}
    (terminal : continuation.isTerminal = true) (arguments keywords : List (Tree α)) :
    (member chain continuation).called? arguments keywords = none := by
  cases keywords with
  | nil => simp [called?, Step.of?_terminal terminal]
  | cons keyword rest => simp [called?]

/-- What is called, with the head and the expressions changed. -/
def map (onTag : α → β) (onTree : Tree α → Tree β) : Callee α → Callee β
  | head tag => head (onTag tag)
  | member chain continuation => member (chain.map onTag onTree) continuation

end Callee

namespace Chain

mutual

/-- The chain up to a call after which it may go on. -/
def upTo? : Tree α → Option (Chain α (Tree α))
  | .node _ label children =>
    match label with
    | .call => (calleeIn? children).bind fun callee =>
        callee.called? (inRole .args children) (inRole .keywords children)
    | _ => none

/-- What a call with some children calls. -/
def calleeIn? : Forest α → Option (Callee α)
  | [] => none
  | (role, tree) :: rest => if role = .func then callee? tree else calleeIn? rest

/-- What a node is to a call of it. -/
def callee? : Tree α → Option (Callee α)
  | .node tag label children =>
    match label with
    | .name .. => some (.head tag)
    | .member name _ => (valueIn? children).bind fun chain =>
        (Continuation.ofKeyword? name).map (Callee.member chain)
    | _ => none

/-- The chain of which a node with some children is a member. -/
def valueIn? : Forest α → Option (Chain α (Tree α))
  | [] => none
  | (role, tree) :: rest => if role = .value then upTo? tree else valueIn? rest

end

/-- The chain that ends at a node. -/
def ofTree? : Tree α → Option (Chain α (Tree α))
  | .node _ label children =>
    match label with
    | .call => (calleeIn? children).bind fun callee =>
        callee.ended? (inRole .args children) (inRole .keywords children)
    | _ => none

/-- A chain ends at a call of a member that ends it. -/
theorem exists_of_ended {tag : α} {label : Label} {children : Forest α} {chain : Chain α (Tree α)}
    (ended : ofTree? (.node tag label children) = some chain) : label = .call ∧
      ∃ continuation, calleeIn? children = some (.member chain continuation) ∧
        continuation.isTerminal = true := by
  by_cases isCall : label = .call
  · subst isCall
    obtain ⟨callee, found, closes⟩ := Option.bind_eq_some_iff.mp ended
    obtain ⟨continuation, rfl, terminal, -⟩ := Callee.ended?_eq_some.mp closes
    exact ⟨rfl, continuation, found, terminal⟩
  · simp [ofTree?] at ended

/-- At the end of a chain no chain goes on. -/
theorem upTo?_eq_none_of_ended {tree : Tree α} {chain : Chain α (Tree α)}
    (ended : ofTree? tree = some chain) : upTo? tree = none ∧ callee? tree = none := by
  obtain ⟨tag, label, children⟩ := tree
  obtain ⟨rfl, continuation, found, terminal⟩ := exists_of_ended ended
  refine ⟨?_, rfl⟩
  rw [upTo?, found, Option.bind_some, Callee.called?_terminal terminal]

end Chain

end Downwards

section Upwards

variable {α : Type}

namespace Tree

/-- Whether a node calls what is in its hole, without keyword arguments. -/
def Frame.isPlainCall (frame : Frame α) : Bool :=
  decide (frame.label = .call ∧ frame.role = .func) && (frame.others .keywords).isEmpty

namespace Context

/-- Climbing from a call of a chain, one meets members that continue the chain and their calls, up
to the first that ends it. -/
def endsChain : Context α → Bool
  | member :: call :: outer =>
    match member.label with
    | .member name _ =>
      match Continuation.ofKeyword? name with
      | some continuation =>
        call.isPlainCall && continuation.admits (call.others .args) &&
          (continuation.isTerminal || endsChain outer)
      | none => false
    | _ => false
  | _ => false

/-- Climbing from a name, one meets its call with a condition and then a chain up to its end. -/
def opensChain : Context α → Bool
  | call :: outer => call.isPlainCall && isSingle (call.others .args) && endsChain outer
  | [] => false

end Context

/-- Whether a node of a tree opens a well-formed chain. -/
def opensChain [DecidableEq α] (tree : Tree α) (tag : α) : Bool :=
  match tree.contextOf? (· == tag) with
  | some context => context.opensChain
  | none => false

end Tree

section Likeness

/-- Whether there is a single argument depends on which arguments are unpacked. -/
theorem isSingle_congr {first second : List (Tree α)}
    (same : List.Forall₂ (fun one two => one.isStarred = two.isStarred) first second) :
    isSingle first = isSingle second := by
  cases same with
  | nil => rfl
  | cons starred rest =>
    cases rest with
    | nil => rw [isSingle, isSingle, starred]
    | cons _ _ => rfl

/-- Whether arguments are admitted depends on which of them are unpacked. -/
theorem admits_congr (continuation : Continuation) {first second : List (Tree α)}
    (same : List.Forall₂ (fun one two => one.isStarred = two.isStarred) first second) :
    continuation.admits first = continuation.admits second := by
  have empty : first.isEmpty = second.isEmpty := by cases same <;> rfl
  rw [Continuation.admits, Continuation.admits, empty, isSingle_congr same]

/-- Frames that are alike call what is in their hole together. -/
theorem isPlainCall_congr {first second : Frame α} (alike : Frame.Alike first second) :
    first.isPlainCall = second.isPlainCall := by
  have empty : (first.others .keywords).isEmpty = (second.others .keywords).isEmpty := by
    rw [Bool.eq_iff_iff, List.isEmpty_iff, List.isEmpty_iff, ← List.length_eq_zero_iff,
      ← List.length_eq_zero_iff, (alike.others .keywords).length_eq]
  rw [Frame.isPlainCall, Frame.isPlainCall, alike.label, alike.role, empty]

/-- Contexts that are alike end a chain together. -/
theorem endsChain_congr {first second : Context α} (alike : List.Forall₂ Frame.Alike first second) :
    first.endsChain = second.endsChain := by
  induction first using List.twoStepInduction generalizing second with
  | nil =>
    cases alike
    rfl
  | singleton member =>
    cases alike with
    | cons _ rest =>
      cases rest
      rfl
  | cons_cons member call outer ih _ =>
    obtain ⟨member', rest, memberAlike, restAlike, rfl⟩ := List.forall₂_cons_left_iff.mp alike
    obtain ⟨call', outer', callAlike, outerAlike, rfl⟩ := List.forall₂_cons_left_iff.mp restAlike
    rw [Context.endsChain, Context.endsChain, memberAlike.label, isPlainCall_congr callAlike,
      ih outerAlike]
    simp only [admits_congr _ (callAlike.others .args)]

/-- Contexts that are alike open a chain together. -/
theorem Context.opensChain_congr {first second : Context α}
    (alike : List.Forall₂ Frame.Alike first second) : first.opensChain = second.opensChain := by
  cases alike with
  | nil => rfl
  | cons call outer =>
    rw [Context.opensChain, Context.opensChain, isPlainCall_congr call,
      isSingle_congr (call.others .args), endsChain_congr outer]

/-- **Whether a name opens a chain** does not depend on the insides of what is around it. -/
theorem opensChain_congr [DecidableEq α] {first second : Tree α} {tag : α}
    (alike : Alike (· == tag) first second) : first.opensChain tag = second.opensChain tag := by
  have contexts := alike.context
  rw [opensChain, opensChain]
  generalize first.contextOf? (· == tag) = one at contexts
  generalize second.contextOf? (· == tag) = two at contexts
  cases contexts with
  | none => rfl
  | some frames => exact Context.opensChain_congr frames

end Likeness

end Upwards

end IfChains
