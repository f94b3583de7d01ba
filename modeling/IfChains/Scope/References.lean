/-
**The references to an entry.**

A reference is a name that is read where it is not shadowed. A function, lambda expression, class or
comprehension that binds the name shadows it for the code inside. Decorators, defaults, annotations,
bases, and the first iterable of a comprehension belong to the scope around. A class does not shadow
names for the functions in it.
-/

import IfChains.Scope.Stored

namespace IfChains

namespace Scope

/-- Whether the name is shadowed in a scope, and for the scopes inside it. -/
structure Shadow where
  here : Bool := false
  inside : Bool := false
deriving DecidableEq, Repr

namespace Shadow

/-- The shadow in a function, lambda expression or comprehension that may bind the name. -/
def inFunction (shadow : Shadow) (binds : Bool) : Shadow :=
  ⟨binds || shadow.inside, binds || shadow.inside⟩

/-- The shadow in a class that may bind the name. -/
def inClass (shadow : Shadow) (binds : Bool) : Shadow :=
  ⟨binds || shadow.inside, shadow.inside⟩

end Shadow

/-- Where a node stands: in a scope, or as the first clause of a comprehension, whose iterable
belongs to the scope around. -/
inductive Zone
  | plain (shadow : Shadow)
  | firstClause (shadow outer : Shadow)
deriving DecidableEq, Repr

namespace Zone

/-- The scope of a node itself. -/
def shadow : Zone → Shadow
  | plain shadow => shadow
  | firstClause shadow _ => shadow

/-- The scope of the iterable of a clause. -/
def iterable : Zone → Shadow
  | plain shadow => shadow
  | firstClause _ outer => outer

end Zone

variable {α : Type}

/-- The results of children in the order of some roles. -/
def inOrder (roles : List Role) (found : List (Role × List α)) : List α :=
  roles.flatMap fun role => found.flatMap fun child => if child.1 = role then child.2 else []

/-- The targets of a comprehension. -/
def comprehensionTargets (tree : Tree α) : List (Tree α) :=
  (tree.having .generators).flatMap fun clause => clause.having .target

/-- The names that a node binds in its own scope. -/
def ownNames (module : String) (tree : Tree α) : List String :=
  match tree.label with
  | .functionDef .. =>
    (tree.having .args).flatMap parameters ++ stored module (tree.having .body)
  | .lambda => (tree.having .args).flatMap parameters
  | .classDef _ => stored module (tree.having .body)
  | .listComp | .setComp | .dictComp | .generatorExp => stored module (comprehensionTargets tree)
  | _ => []

/-- Where the children of a node stand: by their role, and the first clause apart. -/
def zoneOf (label : Label) (zone : Zone) (inner : Shadow) (first : Bool) (role : Role) : Zone :=
  match label with
  | .functionDef .. | .classDef _ | .lambda => .plain (if role = .body then inner else zone.shadow)
  | .listComp | .setComp | .dictComp | .generatorExp =>
    if role = .generators && first then .firstClause inner zone.shadow else .plain inner
  | .comprehension _ => .plain (if role = .iter then zone.iterable else zone.shadow)
  | _ => .plain zone.shadow

/-- The order in which the children of a node are looked at, if it is not that of the text. -/
def visitOrder (label : Label) (zone : Zone) : Option (List Role) :=
  match label, zone with
  | .functionDef .., _ => some [.decoratorList, .args, .returns, .body]
  | .classDef _, _ => some [.decoratorList, .bases, .keywords, .body]
  | .listComp, _ | .setComp, _ | .generatorExp, _ => some [.generators, .elt]
  | .dictComp, _ => some [.generators, .key, .value]
  | .comprehension _, .firstClause .. => some [.iter, .target, .ifs]
  | _, _ => none

/-- The shadow in the scope that a node opens. -/
def innerShadow (label : Label) (shadow : Shadow) (binds : Bool) : Shadow :=
  match label with
  | .classDef _ => shadow.inClass binds
  | _ => shadow.inFunction binds

mutual

/-- The annotations of the references in a tree. -/
def collect (name module : String) (zone : Zone) : Tree α → List α
  | .node tag label children =>
    let own := ownNames module (.node tag label children)
    let inner := innerShadow label zone.shadow (own.contains name)
    let found := collectForest name module (zoneOf label zone inner) true children
    let here := if label = .name name .load && !zone.shadow.here then [tag] else []
    here ++ match visitOrder label zone with
      | some roles => inOrder roles found
      | none => found.flatMap (·.2)

/-- The annotations of the references in each tree of a forest. -/
def collectForest (name module : String) (zone : Bool → Role → Zone) (first : Bool) :
    Forest α → List (Role × List α)
  | [] => []
  | (role, tree) :: rest =>
    (role, collect name module (zone first role) tree) ::
      collectForest name module zone (first && role != .generators) rest

end

/-- The annotations of the references in a module, by their places in the text. -/
def references (place : α → Option Position) (name module : String) (tree : Tree α) : List α :=
  (collect name module (.plain {}) tree).mergeSort fun first second =>
    ((place first).getD ⟨0, 0⟩).before ((place second).getD ⟨0, 0⟩)

end Scope

end IfChains
