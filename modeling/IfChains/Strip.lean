/-
**Removing the imports of the macro module.**

The statements `from <module> import …` are removed from every block. A block that loses all its
statements becomes `pass`, except that of the module itself.
-/

import IfChains.Imports

namespace IfChains

namespace Strip

variable {α : Type}

/-- A `pass` statement. -/
def pass (blank : α) : Tree α :=
  .node blank .passStmt []

/-- Whether a child is a statement of a block that has a given role. -/
def isInBlock (role : Role) (child : Role × Tree α) : Bool :=
  role.isBlock && child.1 = role && child.2.label.isStatement

/-- Whether a block loses all its statements and must not be empty. -/
def losesAll (module : String) (label : Label) (children : Forest α) (role : Role) : Bool :=
  label != .module &&
    (children.filter (isInBlock role)).all fun child => Imports.isFrom module child.2.label

mutual

/-- The tree without the imports of a module. -/
def strip (module : String) (blank : α) : Tree α → Tree α
  | .node tag label children =>
    .node tag label
      (stripForest module blank (losesAll module label children) [] children)

/-- The children without the imports of a module; the blocks that are told to lose all their
statements get a `pass` in the place of the first one. -/
def stripForest (module : String) (blank : α) (hollow : Role → Bool) :
    (filled : List Role) → Forest α → Forest α
  | _, [] => []
  | filled, (role, tree) :: rest =>
    if Imports.isFrom module tree.label then
      if hollow role && !filled.contains role then
        (role, pass blank) :: stripForest module blank hollow (role :: filled) rest
      else stripForest module blank hollow filled rest
    else (role, strip module blank tree) :: stripForest module blank hollow filled rest

end

end Strip

end IfChains
