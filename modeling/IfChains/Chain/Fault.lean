/-
**What can be wrong with a chain.**

A `ShapeFault` is a way in which a chain is malformed; it is reported at the node that was looked
at. The other ways in which a walk can stop say that it met a node it did not expect.
-/

import IfChains.Chain.Branches
import IfChains.Location

namespace IfChains

/-- The ways in which a chain is malformed. The label names the entry or a member. -/
inductive ShapeFault
  | notInvoked (label : String)
  | keywordArguments (label : String)
  | notOneArgument (label : String)
  | arguments (label : String)
  | argumentKind (label : String)
  | unterminated (entry : String)
  | unknownMember (entry member : String)
deriving DecidableEq, Repr

namespace ShapeFault

/-- The wording of a fault. -/
def message : ShapeFault → String
  | notInvoked label => "Expected " ++ label ++ " to have been invoked as a function"
  | keywordArguments label =>
    "Expected " ++ label ++ " to have been invoked without keyword arguments"
  | notOneArgument label => "Expected " ++ label ++ " to have been invoked with one argument"
  | arguments label => "Expected " ++ label ++ " to have been invoked without arguments"
  | argumentKind label => "Expected argument passed to " ++ label ++
      " to have been an identifier, literal or expression"
  | unterminated entry => "Expected the " ++ entry ++ "-chain to have been terminated with an end"
  | unknownMember entry member =>
    "Unexpected member invocation on " ++ entry ++ " chain: " ++ member

end ShapeFault

/-- Why a walk along a chain stops. -/
inductive WalkFault
  /-- The chain is malformed. -/
  | shape (fault : ShapeFault) (location : Location)
  /-- A node of some type is to be replaced, but the tree does not hold it. -/
  | detached (typeName : String)
  /-- A continuation feeds no branch. -/
  | noBranch (fault : NoBranch)
  /-- A node of some type is taken for one of a type that has a certain field. -/
  | misread (typeName field : String)
  /-- A node of some type is taken for a list of nodes. -/
  | noList (typeName : String)
  /-- A list of arguments or references has no item of a number. -/
  | noItem
  /-- The walk goes on longer than the tree is high. -/
  | endless
deriving DecidableEq, Repr

end IfChains
