/-
**Expanding the chains of a program.**

A program that does not import the macro is left as it is. Otherwise the chains of each name bound
to the macro are expanded, one name after the other, the imports of the macro are removed, and the
tree is printed.
-/

import IfChains.Chain.Expansion
import IfChains.Printer.Tree
import IfChains.Scope.References
import IfChains.Source
import IfChains.Strip

namespace IfChains

/-- Why a program cannot be expanded. -/
inductive Fault
  /-- The text holds the character of code zero. -/
  | nullCharacter
  | parse (failure : SyntaxFailure)
  | binding (fault : BindingFault)
  | walk (fault : WalkFault)
  | print (fault : PrintFault)
deriving DecidableEq, Repr

namespace Fault

/-- The report of a fault that is one of the program's. -/
def report? : Fault → Option Report
  | parse failure => some ⟨.parse, failure.fault.message, ⟨failure.line, failure.column⟩⟩
  | binding fault => some ⟨.binding, fault.message, fault.location⟩
  | walk (.shape fault location) => some ⟨.chainShape, fault.message, location⟩
  | _ => none

/-- The text of a fault. -/
def text (fault : Fault) : String :=
  match fault.report?, fault with
  | some report, _ => report.text
  | none, walk (.detached typeName) => typeName ++ " node is not attached to the tree"
  | none, walk (.noBranch fault) => fault.message
  | none, walk (.misread typeName field) =>
    "'" ++ typeName ++ "' object has no attribute '" ++ field ++ "'"
  | none, walk (.noList typeName) => "'" ++ typeName ++ "' object is not iterable"
  | none, walk .noItem => "list index out of range"
  | none, walk .endless => "the chain does not end"
  | none, nullCharacter => "source code string cannot contain null bytes"
  | none, print fault => fault.message
  | none, _ => ""

end Fault

/-- What expanding a program comes to: the text or a fault, the number of chains expanded for the
names that were done with, and the remarks made. -/
structure Outcome where
  result : Except Fault String
  expanded : Nat := 0
  remarks : List Remark := []

namespace Transform

/-- The tree and the count of expanded chains after the names that are done with. -/
structure Progress where
  state : WalkState
  expanded : Nat := 0

/-- The references to a name in the tree as it is now. -/
def referencesTo (module name : String) (root : NodeId) (live : LiveTree) : List NodeId :=
  (Scope.references (·.position) name module (live.toTree root)).map (·.id)

/-- Expands the chains of one name. -/
def expandName (file module : String) (root : NodeId) (name : String) : Walk Nat := do
  let references := referencesTo module name root (← Walk.live)
  Walk.remark (.references file references.length name)
  Expansion.dispatch name references

/-- Expands the chains of names, one after the other, up to the first fault. -/
def expandNames (file module : String) (root : NodeId) : List String → Progress →
    Option WalkFault × Progress
  | [], progress => (none, progress)
  | name :: rest, progress =>
    match (expandName file module root name).run progress.state with
    | (.ok count, state) =>
      expandNames file module root rest ⟨state, progress.expanded + count⟩
    | (.error fault, state) => (some fault, { progress with state := state })

/-- The text of a tree without the imports of the macro. -/
def printed (module : String) (tree : Tree LiveTree.Tag) : Except Fault String :=
  match (Strip.strip module default tree).print with
  | .ok text => .ok (text ++ "\n")
  | .error fault => .error (.print fault)

/-- Expands the chains of a program that is a tree, given the names bound to the macro. -/
def expandTree (file module : String) (names : List String) (tree : SourceTree) : Outcome :=
  let (root, live) := LiveTree.ofTree tree
  let (fault, progress) := expandNames file module root names ⟨{ live := live }, 0⟩
  { result := match fault with
      | some fault => .error (.walk fault)
      | none => printed module (progress.state.live.toTree root)
    expanded := progress.expanded
    remarks := progress.state.remarks }

/-- The tree of a program. -/
def parse (origin : Origin) (source : String) : Except Fault SourceTree :=
  if source.contains '\x00' then .error .nullCharacter
  else match Source.read origin source with
    | .ok tree => .ok tree
    | .error failure => .error (.parse failure)

/-- Expands the chains of a program, given the module of the macro and the name of the file. -/
def transform (module : String) (origin : Origin) (file source : String) : Outcome :=
  match parse origin source with
  | .error fault => { result := .error fault }
  | .ok tree =>
    match Imports.bindings module tree with
    | .error fault => { result := .error (.binding fault) }
    | .ok [] => { result := .ok source }
    | .ok names => expandTree file module names tree

end Transform

end IfChains
