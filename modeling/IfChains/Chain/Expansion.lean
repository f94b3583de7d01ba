/-
**Expanding chains.**

A chain begins at a reference to its entry, which is called with the condition. The walk climbs from
call to member to call until the chain ends, gathers the branches, and replaces the outermost call.
Chains inside arguments are expanded first, among the references that come later in the list. A walk
therefore hands down ever shorter lists, which bounds the depth of its nesting; the climb is bounded
by the size of the tree.
-/

import IfChains.Chain.Shape
import IfChains.Chain.Synthesis

namespace IfChains

namespace Expansion

open Walk

/-- What the walk along a chain comes to: the call to be replaced and what replaces it. -/
structure ChainResult where
  top : NodeId
  expr : NodeId
deriving DecidableEq, Repr

/-- How the chain of a reference is expanded, given the references that come after it. -/
abbrev Resolver := NodeId → List NodeId → Walk Bool

section Steps

variable (resolve : Resolver) (entry : String)

/-- Expands the chains of references inside an argument of a call. -/
def processArgument (call : NodeId) (index : Nat) : List NodeId → Walk Unit
  | [] => return
  | reference :: later => do
    if !(← isProcessed reference) then
      match (← argumentsOf call)[index]? with
      | some argument =>
        if (← live).contains argument reference then
          let _ ← resolve reference later
      | none => throw .noItem
    processArgument call index later

/-- Expands the chains of references inside the arguments of a call. -/
def ensureArguments (call : NodeId) (remaining : List NodeId) : Walk Unit := do
  (List.range (← argumentsOf call).length).forM fun index =>
    processArgument resolve call index remaining

/-- Climbs a chain from a call to its end and makes the conditional expression. -/
def processChain : (steps : Nat) → (position condition : NodeId) → BranchSet NodeId →
    (remaining : List NodeId) → Walk ChainResult
  | 0, _, _, _, _ => throw .endless
  | steps + 1, position, condition, branches, remaining => do
    let member ← Shape.nextMember entry (← parentOf position) position
    let continuation ← Shape.continuationOf entry member
    let label := "member " ++ continuation.keyword
    let call ← Shape.invocation (← parentOf member) member label
    if continuation.isTerminal then
      Shape.noArguments call label
      Shape.noKeywords call label
      return ⟨call, ← Synthesis.conditional branches condition⟩
    ensureArguments resolve call remaining
    Shape.noKeywords call label
    if continuation = .elseIf then
      let argument ← Shape.singleArgument call label
      Shape.expressionLike argument call label
      let nested ← processChain steps call argument {} remaining
      let branches := branches.replaceAlternate nested.expr
      return ⟨nested.top, ← Synthesis.conditional branches condition⟩
    let branch ← match Branch.ofContinuation continuation with
      | .ok branch => pure branch
      | .error fault => throw (.noBranch fault)
    if continuation.takesSingle then
      let argument ← Shape.singleArgument call label
      Shape.expressionLike argument call label
      processChain steps call condition (branches.push branch argument) remaining
    else
      let branches := branches.pushDiscarded branch (← argumentsOf call) (← undefined)
      processChain steps call condition branches remaining

/-- Walks a chain from a call; the climb is bounded by the size of the tree. -/
def walkChain (position condition : NodeId) (remaining : List NodeId) : Walk ChainResult := do
  processChain resolve entry (← live).size position condition {} remaining

/-- Expands the chain of a reference, unless that is done; tells whether it was not. -/
def expandReference (reference : NodeId) (remaining : List NodeId) : Walk Bool := do
  if ← isProcessed reference then return false
  let call ← Shape.invocation (← parentOf reference) reference entry
  ensureArguments resolve call remaining
  Shape.noKeywords call entry
  let condition ← Shape.singleArgument call entry
  Shape.expressionLike condition call entry
  let result ← walkChain resolve entry call condition remaining
  replace result.top result.expr
  markProcessed reference
  remark (.expanded entry ((← live).location call))
  return true

end Steps

/-- Expands the chain of a reference, with a bound on the depth of nested expansions. -/
def resolver (entry : String) : (depth : Nat) → Resolver
  | 0 => fun _ _ => throw .endless
  | depth + 1 => expandReference (resolver entry depth) entry

/-- Expands the chain of a reference, and first those of later references inside its arguments. -/
def processReference (entry : String) (reference : NodeId) (remaining : List NodeId) : Walk Bool :=
  resolver entry (remaining.length + 1) reference remaining

/-- Expands the chains of references, given in the order in which they are to be looked at. -/
def processAll (entry : String) : List NodeId → Walk Unit
  | [] => return
  | reference :: later => do
    if !(← isProcessed reference) then
      let _ ← processReference entry reference later
    processAll entry later

/-- Expands the chains of references and counts the expanded ones. -/
def dispatch (entry : String) (references : List NodeId) : Walk Nat := do
  modify fun state => { state with processed := [] }
  processAll entry references
  let count := (← get).processed.length
  remark (.total count entry)
  return count

end Expansion

end IfChains
