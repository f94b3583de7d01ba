/-
**What a node of a syntax tree is, apart from its children.**

A `Label` is the kind of a node together with everything it holds that is not a node: names,
constants, operators, the context of a target. A `Role` says what a child is to its parent. The
names of kinds and roles are those of the abstract syntax of Python, since the tool prints them.
-/

import IfChains.Text.CodePoints
import IfChains.Numeral.Double

namespace IfChains

/-- The operators that join truth values. -/
inductive BoolOperator
  | and | or
deriving DecidableEq, Repr

/-- The operators between two values. -/
inductive BinaryOperator
  | add | sub | mult | matMult | div | mod | pow | leftShift | rightShift | bitOr | bitXor | bitAnd
  | floorDiv
deriving DecidableEq, Repr

/-- The operators before one value. -/
inductive UnaryOperator
  | invert | not | plus | minus
deriving DecidableEq, Repr

/-- The operators of a comparison. -/
inductive Comparison
  | eq | notEq | lt | ltEq | gt | gtEq | is | isNot | isIn | notIn
deriving DecidableEq, Repr

/-- Whether a name, member, subscript or display is read, bound or deleted. -/
inductive Usage
  | load | store | delete
deriving DecidableEq, Repr

/-- The constants that a source text can spell. -/
inductive Constant
  | none
  | true
  | false
  | ellipsis
  | int (value : Nat)
  | float (value : Double)
  | imaginary (value : Double)
  /-- A text; `marked` when its literal begins with the letter `u`. -/
  | text (value : CodePoints) (marked : Bool)
  | bytes (value : List Nat)
deriving DecidableEq, Repr

/-- What a child is to its parent. -/
inductive Role
  | body | orelse | finalbody | handlers | cases | decoratorList
  | args | returns | bases | keywords | value | targets | target | hint | test | iter | items
  | subject | exc | cause | msg | names
  | values | left | right | operand | keys | elts | elt | key | generators | comparators | func
  | formatSpec | slice | lower | upper | step
  | posonlyargs | vararg | kwonlyargs | kwDefaults | kwarg | defaults
  | contextExpr | optionalVars | type | ifs | pattern | patterns | guard | cls | kwdPatterns
deriving DecidableEq, Repr

namespace Role

/-- The spelling of a role in a path through a tree. -/
def name : Role → String
  | body => "body" | orelse => "orelse" | finalbody => "finalbody" | handlers => "handlers"
  | cases => "cases" | decoratorList => "decorator_list" | args => "args" | returns => "returns"
  | bases => "bases" | keywords => "keywords" | value => "value" | targets => "targets"
  | target => "target" | hint => "annotation" | test => "test" | iter => "iter"
  | items => "items" | subject => "subject" | exc => "exc" | cause => "cause" | msg => "msg"
  | names => "names" | values => "values" | left => "left" | right => "right"
  | operand => "operand" | keys => "keys" | elts => "elts" | elt => "elt" | key => "key"
  | generators => "generators" | comparators => "comparators" | func => "func"
  | formatSpec => "format_spec" | slice => "slice" | lower => "lower" | upper => "upper"
  | step => "step" | posonlyargs => "posonlyargs" | vararg => "vararg"
  | kwonlyargs => "kwonlyargs" | kwDefaults => "kw_defaults" | kwarg => "kwarg"
  | defaults => "defaults" | contextExpr => "context_expr" | optionalVars => "optional_vars"
  | type => "type" | ifs => "ifs" | pattern => "pattern" | patterns => "patterns"
  | guard => "guard" | cls => "cls" | kwdPatterns => "kwd_patterns"

/-- The roles whose children are the statements of one block. -/
def isBlock : Role → Bool
  | body | orelse | finalbody => Bool.true
  | _ => Bool.false

end Role

/-- The kind of a node and what it holds besides its children. -/
inductive Label
  | module
  -- statements
  | functionDef (async : Bool) (name : String)
  | classDef (name : String)
  | returnStmt
  | deleteStmt
  | assign
  | augAssign (operator : BinaryOperator)
  /-- An annotated target; `simple` when it is a bare name. -/
  | annAssign (simple : Bool)
  | forStmt (async : Bool)
  | whileStmt
  | ifStmt
  | withStmt (async : Bool)
  | matchStmt
  | raiseStmt
  /-- A `try`; `groups` when its handlers are `except*`. -/
  | tryStmt (groups : Bool)
  | assertStmt
  | importStmt
  | importFrom (module : Option String) (level : Nat)
  | globalStmt (names : List String)
  | nonlocalStmt (names : List String)
  | exprStmt
  | passStmt
  | breakStmt
  | continueStmt
  -- expressions
  | boolOp (operator : BoolOperator)
  | namedExpr
  | binOp (operator : BinaryOperator)
  | unaryOp (operator : UnaryOperator)
  | lambda
  | ifExp
  /-- A dictionary display: which of the values have a key (the others are unpacked). -/
  | dict (keyed : List Bool)
  | set
  | listComp
  | setComp
  | dictComp
  | generatorExp
  | await
  | yield
  | yieldFrom
  | compare (operators : List Comparison)
  | call
  /-- A replacement field of a formatted text, with its conversion letter if it has one. -/
  | formattedValue (conversion : Option Char)
  | joinedStr
  | constant (value : Constant)
  | member (name : String) (usage : Usage)
  | subscript (usage : Usage)
  | starred (usage : Usage)
  | name (id : String) (usage : Usage)
  | list (usage : Usage)
  | tuple (usage : Usage)
  | slice
  -- parts of statements and expressions
  | comprehension (async : Bool)
  | exceptHandler (name : Option String)
  /-- A parameter list: which of the keyword-only parameters have a default. -/
  | arguments (defaulted : List Bool)
  | arg (name : String)
  | keyword (name : Option String)
  | importItem (name : String) (asname : Option String)
  | withItem
  | matchCase
  -- patterns
  | matchValue
  | matchSingleton (value : Constant)
  | matchSequence
  | matchMapping (rest : Option String)
  | matchClass (keywords : List String)
  | matchStar (name : Option String)
  | matchAs (name : Option String)
  | matchOr
deriving DecidableEq, Repr

namespace Label

/-- The class a node belongs to. -/
inductive Family
  | root | statement | expression | part | pattern
deriving DecidableEq, Repr

/-- The family of a kind of node. -/
def family : Label → Family
  | module => .root
  | functionDef .. | classDef _ | returnStmt | deleteStmt | assign | augAssign _ | annAssign _
  | forStmt _ | whileStmt | ifStmt | withStmt _ | matchStmt | raiseStmt | tryStmt _ | assertStmt
  | importStmt | importFrom .. | globalStmt _ | nonlocalStmt _ | exprStmt | passStmt | breakStmt
  | continueStmt => .statement
  | boolOp _ | namedExpr | binOp _ | unaryOp _ | lambda | ifExp | dict _ | set | listComp | setComp
  | dictComp | generatorExp | await | yield | yieldFrom | compare _ | call | formattedValue _
  | joinedStr | constant _ | member .. | subscript _ | starred _ | name .. | list _ | tuple _
  | slice => .expression
  | comprehension _ | exceptHandler _ | arguments _ | arg _ | keyword _ | importItem .. | withItem
  | matchCase => .part
  | matchValue | matchSingleton _ | matchSequence | matchMapping _ | matchClass _ | matchStar _
  | matchAs _ | matchOr => .pattern

/-- Whether nodes of this kind carry a position. -/
def positioned : Label → Bool
  | module | comprehension _ | arguments _ | withItem | matchCase => Bool.false
  | _ => Bool.true

/-- Whether a node is a statement. -/
def isStatement (label : Label) : Bool :=
  label.family == .statement

/-- The name of the class of a node. -/
def typeName : Label → String
  | module => "Module"
  | functionDef async _ => if async then "AsyncFunctionDef" else "FunctionDef"
  | classDef _ => "ClassDef"
  | returnStmt => "Return"
  | deleteStmt => "Delete"
  | assign => "Assign"
  | augAssign _ => "AugAssign"
  | annAssign _ => "AnnAssign"
  | forStmt async => if async then "AsyncFor" else "For"
  | whileStmt => "While"
  | ifStmt => "If"
  | withStmt async => if async then "AsyncWith" else "With"
  | matchStmt => "Match"
  | raiseStmt => "Raise"
  | tryStmt groups => if groups then "TryStar" else "Try"
  | assertStmt => "Assert"
  | importStmt => "Import"
  | importFrom .. => "ImportFrom"
  | globalStmt _ => "Global"
  | nonlocalStmt _ => "Nonlocal"
  | exprStmt => "Expr"
  | passStmt => "Pass"
  | breakStmt => "Break"
  | continueStmt => "Continue"
  | boolOp _ => "BoolOp"
  | namedExpr => "NamedExpr"
  | binOp _ => "BinOp"
  | unaryOp _ => "UnaryOp"
  | lambda => "Lambda"
  | ifExp => "IfExp"
  | dict _ => "Dict"
  | set => "Set"
  | listComp => "ListComp"
  | setComp => "SetComp"
  | dictComp => "DictComp"
  | generatorExp => "GeneratorExp"
  | await => "Await"
  | yield => "Yield"
  | yieldFrom => "YieldFrom"
  | compare _ => "Compare"
  | call => "Call"
  | formattedValue _ => "FormattedValue"
  | joinedStr => "JoinedStr"
  | constant _ => "Constant"
  | member .. => "Attribute"
  | subscript _ => "Subscript"
  | starred _ => "Starred"
  | name .. => "Name"
  | list _ => "List"
  | tuple _ => "Tuple"
  | slice => "Slice"
  | comprehension _ => "comprehension"
  | exceptHandler _ => "ExceptHandler"
  | arguments _ => "arguments"
  | arg _ => "arg"
  | keyword _ => "keyword"
  | importItem .. => "alias"
  | withItem => "withitem"
  | matchCase => "match_case"
  | matchValue => "MatchValue"
  | matchSingleton _ => "MatchSingleton"
  | matchSequence => "MatchSequence"
  | matchMapping _ => "MatchMapping"
  | matchClass _ => "MatchClass"
  | matchStar _ => "MatchStar"
  | matchAs _ => "MatchAs"
  | matchOr => "MatchOr"

end Label

end IfChains
