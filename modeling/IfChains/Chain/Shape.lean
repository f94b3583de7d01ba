/-
**The shape of a chain, checked node by node.**

Each check returns quietly or stops the walk at the node it looked at. None of them changes the
tree.
-/

import IfChains.Chain.Walk

namespace IfChains

namespace Shape

open Walk

/-- A node is a call of another one. -/
def invocation (node current : Option NodeId) (label : String) : Walk NodeId := do
  match node with
  | none => failAt current (.notInvoked label)
  | some call =>
    if (← kindOf call) = .call then
      if some (← calleeOf call) = current then return call
    failAt call (.notInvoked label)

/-- A call has no keyword arguments. -/
def noKeywords (call : NodeId) (label : String) : Walk Unit := do
  if !(← keywordsOf call).isEmpty then failAt call (.keywordArguments label)

/-- The only positional argument of a call. -/
def singleArgument (call : NodeId) (label : String) : Walk NodeId := do
  match ← argumentsOf call with
  | [argument] => return argument
  | _ => failAt call (.notOneArgument label)

/-- A call has no positional arguments. -/
def noArguments (call : NodeId) (label : String) : Walk Unit := do
  if !(← argumentsOf call).isEmpty then failAt call (.arguments label)

/-- An argument is an expression of its own. -/
def expressionLike (argument call : Option NodeId) (label : String) : Walk Unit := do
  let kind ← match argument with
    | some node => kindOf node
    | none => pure .other
  if kind = .other then failAt call (.argumentKind label)

/-- The chain goes on with a member of a position. -/
def nextMember (entry : String) (parent position : Option NodeId) : Walk NodeId := do
  match parent with
  | some member =>
    if (← kindOf member) = .member then return member
    failAt position (.unterminated entry)
  | none => failAt position (.unterminated entry)

/-- The continuation that a member names. -/
def continuationOf (entry : String) (member : NodeId) : Walk Continuation := do
  let name ← memberOf member
  match Continuation.ofKeyword? name with
  | some continuation => return continuation
  | none => failAt member (.unknownMember entry name)

end Shape

end IfChains
