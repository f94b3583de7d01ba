/-
**The names a module imports from the macro module.**

Only `from <module> import If` is allowed, perhaps with another name for it. The import statements
of a tree are looked at in breadth-first order, and the first one that is not allowed is a fault.
-/

import IfChains.Report
import IfChains.Syntax.Tree

namespace IfChains

/-- The one symbol of the macro module. -/
def macroSymbol : String := "If"

/-- A use of the macro module that is not allowed. -/
inductive BindingFault
  /-- The module is imported as a whole. -/
  | wholeModule (module : String) (location : Location)
  /-- Other names than the symbol are imported from it. -/
  | names (module : String) (invalid : List String) (location : Location)
deriving DecidableEq, Repr

namespace BindingFault

/-- The wording of a fault. -/
def message : BindingFault → String
  | wholeModule module _ =>
    "Invalid import of " ++ module ++ ": use 'from " ++ module ++ " import " ++ macroSymbol ++ "'"
  | names module invalid _ => "Invalid import from " ++ module ++ ": " ++ ", ".intercalate invalid

/-- Where a fault is. -/
def location : BindingFault → Location
  | wholeModule _ location => location
  | names _ _ location => location

end BindingFault

namespace Imports

variable {α : Type}

/-- The names that an import statement lists, each with its other name. -/
def aliases (tree : Tree α) : List (String × Option String) :=
  tree.children.filterMap fun child => match child.2.label with
    | .importItem name asname => some (name, asname)
    | _ => none

/-- The name that an imported name is bound to. -/
def localName (item : String × Option String) : String :=
  item.2.getD item.1

/-- Whether a label is that of an import from a module. -/
def isFrom (module : String) : Label → Bool
  | .importFrom (some name) 0 => name == module
  | _ => false

/-- The local names that a statement imports from a module, unless the import is not allowed. -/
def ofNode (module : String) (tree : SourceTree) : Except BindingFault (List String) :=
  let location := Location.ofPosition tree.tag
  if tree.label = .importStmt then
    if (aliases tree).any fun item => item.1 == module then .error (.wholeModule module location)
    else .ok []
  else if isFrom module tree.label then
    let invalid := ((aliases tree).map (·.1)).filter (· != macroSymbol)
    if invalid.isEmpty then .ok ((aliases tree).map localName)
    else .error (.names module invalid location)
  else .ok []

/-- Adds names that are not there yet. -/
def addNew (names new : List String) : List String :=
  new.foldl (fun names name => if names.contains name then names else names ++ [name]) names

/-- The local names that some nodes import from a module, beside those already found. -/
def collect (module : String) : (names : List String) → List SourceTree →
    Except BindingFault (List String)
  | names, [] => .ok names
  | names, tree :: rest => do
    collect module (addNew names (← ofNode module tree)) rest

/-- The local names bound to the symbol of a module, in breadth-first order. -/
def bindings (module : String) (tree : SourceTree) : Except BindingFault (List String) :=
  collect module [] tree.breadthFirst

end Imports

end IfChains
