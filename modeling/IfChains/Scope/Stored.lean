/-
**The names a scope binds.**

A scope binds the names that its statements store, delete, define, import or capture, except those
it declares to belong to another scope. The bodies of nested scopes are not looked into. An import
of the macro module does not count.
-/

import IfChains.Imports

namespace IfChains

namespace Scope

variable {α : Type}

/-- The first part of a dotted name. -/
def topName (name : String) : String :=
  String.ofList (name.toList.takeWhile (· != '.'))

/-- The names that an import statement binds. -/
def importedNames (tree : Tree α) : List String :=
  (Imports.aliases tree).map fun item => topName (Imports.localName item)

/-- Whether a node of a kind is a scope of its own within an expression. -/
def isInner : Label → Bool
  | .lambda | .listComp | .setComp | .dictComp | .generatorExp => true
  | _ => false

/-- The names that a node binds by itself, beside those that nodes beneath it bind. -/
def boundHere (tree : Tree α) : List String :=
  match tree.label with
  | .name id .store | .name id .delete => [id]
  | .functionDef _ name | .classDef name => [name]
  | .importStmt | .importFrom .. => importedNames tree
  | .exceptHandler (some name) | .matchAs (some name) | .matchStar (some name)
  | .matchMapping (some name) => [name]
  | _ => []

/-- Whether nothing beneath a node binds a name in the scope of the node. -/
def isClosed (module : String) : Label → Bool
  | .functionDef .. | .classDef _ => true
  | label => isInner label || Imports.isFrom module label

mutual

/-- The names that a node and those beneath it bind in one scope. -/
def bound (module : String) : Tree α → List String
  | .node tag label children =>
    let here := if isInner label || Imports.isFrom module label then []
      else boundHere (.node tag label children)
    here ++ if isClosed module label then [] else boundForest module children

/-- The names that some nodes and those beneath them bind in one scope. -/
def boundForest (module : String) : Forest α → List String
  | [] => []
  | (_, tree) :: rest => bound module tree ++ boundForest module rest

end

mutual

/-- The names that a node and those beneath it declare to belong to another scope. -/
def declared (module : String) : Tree α → List String
  | .node _ label children =>
    match label with
    | .globalStmt names | .nonlocalStmt names => names
    | _ => if isClosed module label then [] else declaredForest module children

/-- The names that some nodes and those beneath them declare to belong to another scope. -/
def declaredForest (module : String) : Forest α → List String
  | [] => []
  | (_, tree) :: rest => declared module tree ++ declaredForest module rest

end

/-- The names bound in a scope with some nodes, perhaps several times. -/
def stored (module : String) (trees : List (Tree α)) : List String :=
  let elsewhere := trees.flatMap (declared module)
  (trees.flatMap (bound module)).filter fun name => !elsewhere.contains name

/-- The name of a parameter. -/
def parameterName (tree : Tree α) : Option String :=
  match tree.label with
  | .arg name => some name
  | _ => none

/-- The names of the parameters in a parameter list. -/
def parameters (arguments : Tree α) : List String :=
  (arguments.children.map (·.2)).filterMap parameterName

end Scope

end IfChains
