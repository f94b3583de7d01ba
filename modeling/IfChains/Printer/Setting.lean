/-
**Where a node is printed.**

The text of a node depends on its surroundings: how tightly they bind, how far they are indented,
whether a backslash is allowed. `Setting.forChild` says what the surroundings of a child are, by the
label of its parent and its role.
-/

import IfChains.Syntax.Tree

namespace IfChains

/-- How tightly an expression binds, from an assignment expression to an atom. -/
abbrev Precedence := Nat

namespace Precedence

def namedExpr : Precedence := 1
def tuple : Precedence := 2
def yield : Precedence := 3
def test : Precedence := 4
def or : Precedence := 5
def and : Precedence := 6
def not : Precedence := 7
def comparison : Precedence := 8
def bitOr : Precedence := 9
def bitXor : Precedence := 10
def bitAnd : Precedence := 11
def shift : Precedence := 12
def arithmetic : Precedence := 13
def term : Precedence := 14
def factor : Precedence := 15
def power : Precedence := 16
def await : Precedence := 17
def atom : Precedence := 18

/-- The next tighter precedence. -/
def next (precedence : Precedence) : Precedence :=
  min (precedence + 1) atom

end Precedence

namespace BoolOperator

/-- The spelling of an operator. -/
def spelling : BoolOperator → String
  | and => "and"
  | or => "or"

/-- How tightly an operator binds. -/
def precedence : BoolOperator → Precedence
  | and => Precedence.and
  | or => Precedence.or

end BoolOperator

namespace BinaryOperator

/-- The spelling of an operator. -/
def spelling : BinaryOperator → String
  | add => "+" | sub => "-" | mult => "*" | matMult => "@" | div => "/" | mod => "%" | pow => "**"
  | leftShift => "<<" | rightShift => ">>" | bitOr => "|" | bitXor => "^" | bitAnd => "&"
  | floorDiv => "//"

/-- How tightly an operator binds. -/
def precedence : BinaryOperator → Precedence
  | add | sub => Precedence.arithmetic
  | mult | matMult | div | mod | floorDiv => Precedence.term
  | pow => Precedence.power
  | leftShift | rightShift => Precedence.shift
  | bitOr => Precedence.bitOr
  | bitXor => Precedence.bitXor
  | bitAnd => Precedence.bitAnd

/-- The precedence of the left operand: looser operators need parentheses, and so does a power. -/
def left (operator : BinaryOperator) : Precedence :=
  if operator = pow then operator.precedence.next else operator.precedence

/-- The precedence of the right operand. -/
def right (operator : BinaryOperator) : Precedence :=
  if operator = pow then operator.precedence else operator.precedence.next

end BinaryOperator

namespace UnaryOperator

/-- The spelling of an operator with what separates it from its operand. -/
def spelling : UnaryOperator → String
  | invert => "~"
  | not => "not "
  | plus => "+"
  | minus => "-"

/-- How tightly an operator binds. -/
def precedence : UnaryOperator → Precedence
  | not => Precedence.not
  | _ => Precedence.factor

end UnaryOperator

namespace Comparison

/-- The spelling of an operator. -/
def spelling : Comparison → String
  | eq => "==" | notEq => "!=" | lt => "<" | ltEq => "<=" | gt => ">" | gtEq => ">="
  | is => "is" | isNot => "is not" | isIn => "in" | notIn => "not in"

end Comparison

/-- The forms a node can take besides its own. -/
inductive Form
  /-- The form of its own. -/
  | ordinary
  /-- An `if` that continues another one. -/
  | elifArm
  /-- The first text of a body, between triple quotes. -/
  | docstring
  /-- A tuple without parentheses. -/
  | bare
  /-- A part of a formatted text. -/
  | formatted
deriving DecidableEq, Repr

/-- The surroundings in which a node is printed. -/
structure Setting where
  precedence : Precedence := Precedence.test
  indent : Nat := 0
  /-- No backslash may be written. -/
  plain : Bool := false
  /-- The handlers of the nearest `try` take exception groups. -/
  groups : Bool := false
  form : Form := .ordinary
deriving DecidableEq, Repr

namespace Setting

variable {α : Type}

/-- Whether a statement is a text standing alone. -/
def isTextStatement : Tree α → Bool
  | .node _ .exprStmt [(_, .node _ (.constant (.text _ _)) _)] => true
  | _ => false

/-- The one conditional statement that stands in an `else` block, if nothing else does. -/
def soleElse (children : Forest α) : Option (Tree α) :=
  match children.filter fun child => child.1 = Role.orelse with
  | [(_, .node tag .ifStmt rest)] => some (.node tag .ifStmt rest)
  | _ => none

/-- How tightly the surroundings of a child bind, where its parent says so. -/
def precedenceOf? (label : Label) (role : Role) (index : Nat) : Option Precedence :=
  match label, role with
  | .exprStmt, _ => some Precedence.yield
  | .namedExpr, _ | .await, _ | .yield, _ | .yieldFrom, _ => some Precedence.atom
  | .assign, .targets | .forStmt _, .target | .comprehension _, .target => some Precedence.tuple
  | .comprehension _, _ => some Precedence.or
  | .ifExp, .orelse | .lambda, .body => some Precedence.test
  | .ifExp, _ => some Precedence.or
  | .dict keyed, .values => if keyed.getD index true then none else some Precedence.bitOr
  | .unaryOp operator, _ => some operator.precedence
  | .binOp operator, .left => some operator.left
  | .binOp operator, _ => some operator.right
  | .compare _, _ => some Precedence.bitOr
  | .boolOp operator, _ => some (min (operator.precedence + index + 1) Precedence.atom)
  | .member .., _ | .call, .func | .subscript _, .value | .matchClass _, .cls =>
    some Precedence.atom
  | .starred _, _ => some Precedence.bitOr
  | .matchAs _, _ => some Precedence.bitOr
  | .matchOr, _ => some Precedence.bitXor
  | .formattedValue _, .value => some Precedence.or
  | _, _ => none

/-- How tightly the surroundings of a child bind. -/
def precedenceOf (label : Label) (role : Role) (index : Nat) : Precedence :=
  (precedenceOf? label role index).getD Precedence.test

/-- The surroundings of a child, given its role, how many children of that role precede it, and the
label of its parent. -/
def forChild (setting : Setting) (label : Label) (siblings : Forest α) (role : Role) (index : Nat)
    (child : Tree α) : Setting :=
  let inner : Setting :=
    { setting with precedence := precedenceOf label role index, form := .ordinary }
  match label with
  | .ifStmt =>
    if role = .orelse && (soleElse siblings).isSome then { inner with form := .elifArm }
    else if role.isBlock then { inner with indent := setting.indent + 1 }
    else inner
  | .tryStmt groups =>
    if role.isBlock then { inner with indent := setting.indent + 1, groups := groups }
    else { inner with groups := groups }
  | .module =>
    if index = 0 && isTextStatement child then { inner with form := .docstring } else inner
  | .functionDef .. | .classDef _ =>
    if role = .body then
      let body := { inner with indent := setting.indent + 1 }
      if index = 0 && isTextStatement child then { body with form := .docstring } else body
    else inner
  | .forStmt _ | .whileStmt | .withStmt _ | .exceptHandler _ | .matchCase =>
    if role.isBlock then { inner with indent := setting.indent + 1 } else inner
  | .matchStmt => if role = .cases then { inner with indent := setting.indent + 1 } else inner
  | .exprStmt => { inner with form := setting.form }
  | .subscript _ =>
    match role, child with
    | .slice, .node _ (.tuple _) (_ :: _) => { inner with form := .bare }
    | _, _ => inner
  | .joinedStr => { inner with form := .formatted }
  | .formattedValue _ =>
    match role with
    | .value => { inner with plain := true }
    | _ => { inner with form := .formatted }
  | _ => inner

end Setting

end IfChains
