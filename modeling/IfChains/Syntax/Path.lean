/-
**Paths through a syntax tree.**

A path names fields and indexes, separated by dots: `body.0.value.args.1`. The empty path is the
root. A list with gaps (the keys of a dictionary display, the defaults of keyword-only parameters)
counts its gaps. A path can end at a field that holds no node.
-/

import IfChains.Syntax.Field
import IfChains.Syntax.Tree

namespace IfChains

/-- Why a path leads nowhere. -/
inductive PathFault
  /-- A value of some type has no field of a name. -/
  | noField (typeName field : String)
  /-- A list has no item of a number. -/
  | noItem
  /-- The path ends at a list. -/
  | list
deriving DecidableEq, Repr

namespace PathFault

/-- The wording of a fault. -/
def message : PathFault → String
  | noField typeName field => "'" ++ typeName ++ "' object has no attribute '" ++ field ++ "'"
  | noItem => "list index out of range"
  | list => "no such node"

end PathFault

namespace Tree

variable {α : Type}

/-- The children that take a role, gaps included. -/
def items (role : Role) (tree : Tree α) : List (Option (Tree α)) :=
  match tree.label, role with
  | .dict keyed, .keys => withGaps keyed (tree.having role)
  | .arguments defaulted, .kwDefaults => withGaps defaulted (tree.having role)
  | _, _ => (tree.having role).map some

/-- The role of a name that a node has, with the number of children that take it. -/
def field? (name : String) (tree : Tree α) : Option (Role × Arity) :=
  tree.label.fields.find? fun field => field.1.name == name

/-- What is at the end of a path, given as its dotted parts: a node, or a field without one. -/
def follow : List String → Option (Tree α) → Except PathFault (Option (Tree α))
  | [], found => .ok found
  | name :: _, none => .error (.noField "NoneType" name)
  | name :: rest, some tree =>
    match tree.field? name with
    | none => .error (.noField tree.label.typeName name)
    | some (role, .many) =>
      match rest with
      | [] => .error .list
      | index :: rest =>
        match index.toNat? with
        | none => .error (.noField "list" index)
        | some place =>
          match (tree.items role)[place]? with
          | some item => follow rest item
          | none => .error .noItem
    | some (role, _) => follow rest (tree.having? role)

/-- What is at the end of a dotted path. -/
def atPath (path : String) (tree : Tree α) : Except PathFault (Option (Tree α)) :=
  if path.isEmpty then .ok (some tree) else follow (path.splitOn ".") (some tree)

end Tree

end IfChains
