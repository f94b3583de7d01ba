/-
**Programs of a small language.**

A program is a list of instructions, which bind names, evaluate terms, or raise exceptions. Syntax
trees that use other things are no programs of this language.
-/

import IfChains.Syntax.Tree

namespace IfChains

namespace Program

/-- A term that has a value. -/
inductive Term
  | none
  | bool (value : Bool)
  | int (value : Nat)
  | text (value : CodePoints)
  | name (id : String)
  | greater (left right : Term)
  | quotient (left right : Term)
  | negative (operand : Term)
  | conditional (test consequent alternate : Term)
  | tuple (items : List Term)
  | item (base index : Term)
  | member (base : Term) (name : String)
  | call (callee : Term) (arguments : List Term) (keywords : List (String × Term))
deriving Repr

/-- What a name can be imported as. -/
inductive Import
  | system | macro_
deriving DecidableEq, Repr

/-- An instruction of a program. -/
inductive Instruction
  | assign (name : String) (value : Term)
  | evaluate (value : Term)
  | bind (name : String) (imported : Import)
  | raise (value : Term)
deriving Repr

namespace Term

/-- A child of a node: its role, its label, and the term it stands for. -/
structure Part where
  role : Role
  label : Label
  term : Option Term

/-- The term of a constant. -/
def ofConstant : Constant → Option Term
  | .none => some .none
  | .true => some (.bool true)
  | .false => some (.bool false)
  | .int value => some (.int value)
  | .text points _ => some (.text points)
  | _ => Option.none

/-- The terms of the children that have a role. -/
def allAs (role : Role) (parts : List Part) : Option (List Term) :=
  (parts.filter (·.role = role)).mapM (·.term)

/-- The term of the child that has a role. -/
def oneAs (role : Role) (parts : List Part) : Option Term :=
  match allAs role parts with
  | some [term] => some term
  | _ => Option.none

/-- The terms of the keyword arguments of a call. -/
def keywordsOf (parts : List Part) : Option (List (String × Term)) :=
  (parts.filter (·.role = .keywords)).mapM fun part =>
    match part.label, part.term with
    | .keyword (some word), some term => some (word, term)
    | _, _ => Option.none

/-- The term that a node stands for, given its children. -/
def ofParts (label : Label) (parts : List Part) : Option Term :=
  match label with
  | .constant value => ofConstant value
  | .name id .load => some (.name id)
  | .keyword _ => oneAs .value parts
  | .compare [.gt] => do return .greater (← oneAs .left parts) (← oneAs .comparators parts)
  | .binOp .div => do return .quotient (← oneAs .left parts) (← oneAs .right parts)
  | .unaryOp .minus => .negative <$> oneAs .operand parts
  | .ifExp => do
    return .conditional (← oneAs .test parts) (← oneAs .body parts) (← oneAs .orelse parts)
  | .tuple .load => .tuple <$> allAs .elts parts
  | .subscript .load => do return .item (← oneAs .value parts) (← oneAs .slice parts)
  | .member field .load => do return .member (← oneAs .value parts) field
  | .call => do
    return .call (← oneAs .func parts) (← allAs .args parts) (← keywordsOf parts)
  | _ => Option.none

mutual

/-- The term that a tree stands for, if it is one of the language. -/
def ofTree {α : Type} : Tree α → Option Term
  | .node _ label children => ofParts label (ofForest children)

/-- The children of a node with the terms they stand for. -/
def ofForest {α : Type} : Forest α → List Part
  | [] => []
  | (role, .node tag label children) :: rest =>
    ⟨role, label, ofTree (.node tag label children)⟩ :: ofForest rest

end

end Term

namespace Instruction

variable {α : Type}

/-- The instructions that bind the names of an import, given what each name is imported as. -/
def binds (imported : String → Option Import) (tree : Tree α) : Option (List Instruction) :=
  (tree.children.map (·.2)).mapM fun child =>
    match child.label with
    | .importItem name asname => (imported name).map (.bind (asname.getD name))
    | _ => none

/-- The instructions that a statement stands for, if it is one of the language. -/
def ofStatement (module symbol : String) (tree : Tree α) : Option (List Instruction) :=
  match tree.label, tree.having .targets, tree.having? .value with
  | .assign, [target], some value =>
    match target.label with
    | .name id _ => do return [.assign id (← Term.ofTree value)]
    | _ => none
  | .exprStmt, _, some value => do return [.evaluate (← Term.ofTree value)]
  | .importStmt, _, _ => binds (fun name => if name == "sys" then some .system else none) tree
  | .importFrom (some name) 0, _, _ =>
    if name == module then
      binds (fun name => if name == symbol then some .macro_ else none) tree
    else none
  | .raiseStmt, _, _ => do return [.raise (← Term.ofTree (← tree.having? .exc))]
  | .passStmt, _, _ => some []
  | _, _, _ => none

/-- The instructions of a module, if all its statements are of the language. The macro is imported
from a given module by a given name. -/
def ofModule (module symbol : String) (tree : Tree α) : Option (List Instruction) :=
  List.flatten <$> (tree.having .body).mapM (ofStatement module symbol)

end Instruction

section Returns

mutual

/-- Where a tree returns from a function that it does not stand in. -/
def strayReturn : SourceTree → Option (Option Position)
  | .node position label children =>
    match label with
    | .functionDef .. => none
    | .returnStmt => some position
    | _ => strayReturnIn children

/-- Where a forest returns from a function that it does not stand in. -/
def strayReturnIn : Forest (Option Position) → Option (Option Position)
  | [] => none
  | (_, tree) :: rest => (strayReturn tree).or (strayReturnIn rest)

end

end Returns

end Program

end IfChains
