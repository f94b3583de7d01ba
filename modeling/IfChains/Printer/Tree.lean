/-
**Source text of a syntax tree.**

`Tree.print` writes a tree with as few parentheses as the precedence of its operators allows, one
statement a line, four spaces a level, and a blank line before each function and class. Nothing of
the layout or the comments of the text that the tree came from is kept.

The text of a node is assembled from the texts of its children (`assemble`), each printed in the
surroundings that `Setting.forChild` gives it, unless the node itself says how tightly they bind.
Printing fails only where the expression of a replacement field would need a backslash, at a whole
number with too many digits, and at a formatted text with other parts than such texts have.
-/

import IfChains.Printer.Setting
import IfChains.Printer.Literal
import IfChains.Syntax.Field
import IfChains.Numeral.Shortest
import IfChains.Numeral.Whole

namespace IfChains

/-- Why a tree has no source text. -/
inductive PrintFault
  /-- The expression of a replacement field cannot be written without a backslash. -/
  | backslashInField
  /-- A whole number has too many digits. -/
  | tooManyDigits
  /-- A part of a formatted text is a node of a type that cannot be one. -/
  | foreignPart (typeName : String)
deriving DecidableEq, Repr

namespace PrintFault

/-- The wording of a printing fault. -/
def message : PrintFault → String
  | backslashInField => "Unable to avoid backslash in f-string expression part"
  | tooManyDigits => Whole.limitReport none
  | foreignPart typeName => "Unexpected node inside JoinedStr, <ast." ++ typeName ++ " object>"

end PrintFault

namespace Printer

open CodePoints (ofString)

variable {α : Type}

/-- The printed children of a node, each with its role. -/
abbrev Parts := List (Role × CodePoints)

namespace Parts

/-- The texts of the children that have a role. -/
def all (parts : Parts) (role : Role) : List CodePoints :=
  parts.filterMap fun part => if part.1 = role then some part.2 else none

/-- The texts of the children that have a role, one after the other. -/
def joined (parts : Parts) (role : Role) : CodePoints :=
  (parts.all role).flatten

/-- The text of the first child that has a role. -/
def first? (parts : Parts) (role : Role) : Option CodePoints :=
  (parts.all role).head?

/-- The text of the first child that has a role, empty if there is none. -/
def first (parts : Parts) (role : Role) : CodePoints :=
  (parts.first? role).getD []

/-- The text of an optional child after a lead. -/
def after (parts : Parts) (lead : String) (role : Role) : CodePoints :=
  match parts.first? role with
  | some text => ofString lead ++ text
  | none => []

end Parts

/-- Texts with a separator between them. -/
def separated (separator : CodePoints) (texts : List CodePoints) : CodePoints :=
  (texts.intersperse separator).flatten

/-- Texts with commas between them. -/
def commas (texts : List CodePoints) : CodePoints :=
  separated (ofString ", ") texts

/-- The items of a tuple: a single one is followed by a comma. -/
def items : List CodePoints → CodePoints
  | [one] => one ++ ofString ","
  | texts => commas texts

/-- A text between two marks. -/
def between (opening : String) (text : CodePoints) (closing : String) : CodePoints :=
  ofString opening ++ text ++ ofString closing

/-- A text in parentheses if its surroundings bind more tightly than it does. -/
def guarded (setting : Setting) (own : Precedence) (text : CodePoints) : CodePoints :=
  if own < setting.precedence then between "(" text ")" else text

/-- A line of a statement, at the indentation of its surroundings. -/
def line (setting : Setting) (text : CodePoints) : CodePoints :=
  10 :: List.replicate (4 * setting.indent) 32 ++ text

/-- A block behind the line that opens it, if there are statements in it. -/
def block (setting : Setting) (opening : String) : List CodePoints → CodePoints
  | [] => []
  | texts => line setting (ofString opening) ++ texts.flatten

/-- The text of a constant. -/
def constantText (setting : Setting) (value : Constant) : CodePoints :=
  match value, setting.form with
  | .text points _, .formatted => points.flatMap fun point =>
      if point = 123 || point = 125 then [point, point] else [point]
  | .text points marked, .docstring =>
    (if marked then ofString "u" else []) ++ Quotation.write Quotes.multiline points
  | .text points marked, _ =>
    (if marked then ofString "u" else []) ++
      if setting.plain then Quotation.write Quotes.all points
      else (CodePoints.quoted points).map Char.toNat
  | .bytes bytes, _ => (CodePoints.quotedBytes bytes).map Char.toNat
  | .none, _ => ofString "None"
  | .true, _ => ofString "True"
  | .false, _ => ofString "False"
  | .ellipsis, _ => ofString "..."
  | .int number, _ => (Nat.toDigits 10 number).map Char.toNat
  | .float number, _ => ofString (number.text true)
  | .imaginary number, _ => ofString (number.text false ++ "j")

/-- The entries of a dictionary display, from its keys and values. -/
def entries : List Bool → List CodePoints → List CodePoints → List CodePoints
  | true :: keyed, key :: keys, value :: values =>
    (key ++ ofString ": " ++ value) :: entries keyed keys values
  | false :: keyed, keys, value :: values =>
    (ofString "**" ++ value) :: entries keyed keys values
  | _, _, _ => []

/-- Parameters with their defaults. -/
def defaulted : List CodePoints → List (Option CodePoints) → List CodePoints
  | [], _ => []
  | parameter :: parameters, values =>
    (parameter ++ match values.head?.join with
      | some value => ofString "=" ++ value
      | none => []) :: defaulted parameters values.tail

/-- A parameter list. -/
def parameters (mask : List Bool) (parts : Parts) : CodePoints :=
  let positional := parts.all .posonlyargs ++ parts.all .args
  let defaults := parts.all .defaults
  let aligned := List.replicate (positional.length - defaults.length) none ++ defaults.map some
  let named := defaulted positional aligned
  let count := (parts.all .posonlyargs).length
  let marked := if count = 0 then named
    else named.take count ++ [ofString "/"] ++ named.drop count
  let keywordOnly := defaulted (parts.all .kwonlyargs) (withGaps mask (parts.all .kwDefaults))
  let star := match parts.first? .vararg with
    | some text => [ofString "*" ++ text]
    | none => if keywordOnly.isEmpty then [] else [ofString "*"]
  let doubleStar := (parts.all .kwarg).map (ofString "**" ++ ·)
  commas (marked ++ star ++ keywordOnly ++ doubleStar)

/-- The decorators of a definition, a line each. -/
def decorators (setting : Setting) (parts : Parts) : CodePoints :=
  (parts.all .decoratorList).flatMap fun text => line setting (ofString "@" ++ text)

/-- The key and pattern pairs of a mapping pattern. -/
def keyPatterns (keys patterns : List CodePoints) : List CodePoints :=
  List.zipWith (fun key pattern => key ++ ofString ": " ++ pattern) keys patterns

/-- The text of a statement from the texts of its parts. -/
def statement (setting : Setting) (label : Label) (children : Forest α) (parts : Parts) :
    CodePoints :=
  let start := fun (text : CodePoints) => line setting text
  match label with
  | .functionDef async name =>
    10 :: decorators setting parts ++
      start (ofString ((if async then "async def " else "def ") ++ name) ++
        between "(" (parts.first .args) ")" ++ parts.after " -> " .returns ++ ofString ":") ++
      parts.joined .body
  | .classDef name =>
    let arguments := parts.all .bases ++ parts.all .keywords
    10 :: decorators setting parts ++
      start (ofString ("class " ++ name) ++
        (if arguments.isEmpty then [] else between "(" (commas arguments) ")") ++ ofString ":") ++
      parts.joined .body
  | .returnStmt => start (ofString "return" ++ parts.after " " .value)
  | .deleteStmt => start (ofString "del " ++ commas (parts.all .targets))
  | .assign =>
    start ((parts.all .targets).flatMap (· ++ ofString " = ") ++ parts.first .value)
  | .augAssign operator =>
    start (parts.first .target ++ ofString (" " ++ operator.spelling ++ "= ") ++ parts.first .value)
  | .annAssign simple =>
    let target := parts.first .target
    let bareName := children.any fun child =>
      child.1 = .target && match child.2.label with | .name .. => true | _ => false
    start ((if !simple && bareName then between "(" target ")" else target) ++
      parts.after ": " .hint ++ parts.after " = " .value)
  | .forStmt async =>
    start (ofString (if async then "async for " else "for ") ++ parts.first .target ++
      parts.after " in " .iter ++ ofString ":") ++ parts.joined .body ++
      block setting "else:" (parts.all .orelse)
  | .whileStmt =>
    start (ofString "while " ++ parts.first .test ++ ofString ":") ++ parts.joined .body ++
      block setting "else:" (parts.all .orelse)
  | .ifStmt =>
    start (ofString (if setting.form = .elifArm then "elif " else "if ") ++ parts.first .test ++
      ofString ":") ++ parts.joined .body ++
      if (Setting.soleElse children).isSome then parts.joined .orelse
      else block setting "else:" (parts.all .orelse)
  | .withStmt async =>
    start (ofString (if async then "async with " else "with ") ++ commas (parts.all .items) ++
      ofString ":") ++ parts.joined .body
  | .matchStmt =>
    start (ofString "match " ++ parts.first .subject ++ ofString ":") ++ parts.joined .cases
  | .raiseStmt =>
    start (ofString "raise" ++ parts.after " " .exc ++ parts.after " from " .cause)
  | .tryStmt _ =>
    start (ofString "try:") ++ parts.joined .body ++ parts.joined .handlers ++
      block setting "else:" (parts.all .orelse) ++ block setting "finally:" (parts.all .finalbody)
  | .assertStmt => start (ofString "assert " ++ parts.first .test ++ parts.after ", " .msg)
  | .importStmt => start (ofString "import " ++ commas (parts.all .names))
  | .importFrom module level =>
    start (ofString ("from " ++ String.ofList (List.replicate level '.') ++ module.getD "" ++
      " import ") ++ commas (parts.all .names))
  | .globalStmt names => start (ofString ("global " ++ ", ".intercalate names))
  | .nonlocalStmt names => start (ofString ("nonlocal " ++ ", ".intercalate names))
  | .exprStmt => start (parts.first .value)
  | .passStmt => start (ofString "pass")
  | .breakStmt => start (ofString "break")
  | .continueStmt => start (ofString "continue")
  | _ => []

/-- The text of a pattern from the texts of its parts. -/
def pattern (setting : Setting) (label : Label) (parts : Parts) : CodePoints :=
  match label with
  | .matchValue => parts.first .value
  | .matchSingleton value => constantText { setting with form := .ordinary } value
  | .matchSequence => between "[" (commas (parts.all .patterns)) "]"
  | .matchMapping rest =>
    let pairs := keyPatterns (parts.all .keys) (parts.all .patterns)
    between "\x7b" (commas (pairs ++ rest.toList.map fun name => ofString ("**" ++ name))) "\x7d"
  | .matchClass names =>
    let named := List.zipWith (fun name text => ofString (name ++ "=") ++ text) names
      (parts.all .kwdPatterns)
    parts.first .cls ++ between "(" (commas (parts.all .patterns ++ named)) ")"
  | .matchStar name => ofString ("*" ++ name.getD "_")
  | .matchAs none => ofString "_"
  | .matchAs (some name) =>
    match parts.first? .pattern with
    | none => ofString name
    | some text => guarded setting Precedence.test (text ++ ofString (" as " ++ name))
  | .matchOr =>
    guarded setting Precedence.bitOr (separated (ofString " | ") (parts.all .patterns))
  | _ => []

/-- The text of a part of a statement or an expression from the texts of its parts. -/
def element (setting : Setting) (label : Label) (parts : Parts) : CodePoints :=
  match label with
  | .comprehension async =>
    ofString (if async then " async for " else " for ") ++ parts.first .target ++
      parts.after " in " .iter ++ (parts.all .ifs).flatMap (ofString " if " ++ ·)
  | .exceptHandler name =>
    line setting (ofString (if setting.groups then "except*" else "except") ++
      parts.after " " .type ++ (name.elim [] fun name => ofString (" as " ++ name)) ++
      ofString ":") ++ parts.joined .body
  | .arguments mask => parameters mask parts
  | .arg name => ofString name ++ parts.after ": " .hint
  | .keyword none => ofString "**" ++ parts.first .value
  | .keyword (some name) => ofString (name ++ "=") ++ parts.first .value
  | .importItem name asname =>
    ofString name ++ asname.elim [] fun asname => ofString (" as " ++ asname)
  | .withItem => parts.first .contextExpr ++ parts.after " as " .optionalVars
  | .matchCase =>
    line setting (ofString "case " ++ parts.first .pattern ++ parts.after " if " .guard ++
      ofString ":") ++ parts.joined .body
  | _ => []

/-- Whether a member of a child would be read as the fraction of a number. -/
def isWholeNumber (role : Role) (children : Forest α) : Bool :=
  children.any fun child => child.1 = role && match child.2.label with
    | .constant (.int _) | .constant .true | .constant .false => true
    | _ => false

/-- A comparison from its first operand on. -/
def comparisons (operators : List Comparison) (operands : List CodePoints) : CodePoints :=
  (List.zipWith (fun operator operand => ofString (" " ++ operator.spelling ++ " ") ++ operand)
    operators operands).flatten

/-- The text of an expression from the texts of its parts. -/
def expression (setting : Setting) (label : Label) (children : Forest α) (parts : Parts) :
    CodePoints :=
  match label with
  | .boolOp operator =>
    guarded setting operator.precedence
      (separated (ofString (" " ++ operator.spelling ++ " ")) (parts.all .values))
  | .namedExpr =>
    guarded setting Precedence.namedExpr (parts.first .target ++ parts.after " := " .value)
  | .binOp operator =>
    guarded setting operator.precedence
      (parts.first .left ++ ofString (" " ++ operator.spelling ++ " ") ++ parts.first .right)
  | .unaryOp operator =>
    guarded setting operator.precedence (ofString operator.spelling ++ parts.first .operand)
  | .lambda =>
    let parameters := parts.first .args
    guarded setting Precedence.test (ofString "lambda" ++
      (if parameters.isEmpty then [] else ofString " " ++ parameters) ++ parts.after ": " .body)
  | .ifExp =>
    guarded setting Precedence.test
      (parts.first .body ++ parts.after " if " .test ++ parts.after " else " .orelse)
  | .dict keyed =>
    between "\x7b" (commas (entries keyed (parts.all .keys) (parts.all .values))) "\x7d"
  | .set =>
    if (parts.all .elts).isEmpty then ofString "\x7b*()\x7d"
    else between "\x7b" (commas (parts.all .elts)) "\x7d"
  | .listComp => between "[" (parts.first .elt ++ parts.joined .generators) "]"
  | .setComp => between "\x7b" (parts.first .elt ++ parts.joined .generators) "\x7d"
  | .generatorExp => between "(" (parts.first .elt ++ parts.joined .generators) ")"
  | .dictComp =>
    between "\x7b" (parts.first .key ++ parts.after ": " .value ++ parts.joined .generators) "\x7d"
  | .await => guarded setting Precedence.await (ofString "await" ++ parts.after " " .value)
  | .yield => guarded setting Precedence.yield (ofString "yield" ++ parts.after " " .value)
  | .yieldFrom => guarded setting Precedence.yield (ofString "yield from" ++ parts.after " " .value)
  | .compare operators =>
    guarded setting Precedence.comparison
      (parts.first .left ++ comparisons operators (parts.all .comparators))
  | .call =>
    parts.first .func ++ between "(" (commas (parts.all .args ++ parts.all .keywords)) ")"
  | .formattedValue conversion =>
    let inner := parts.first .value
    between "\x7b" ((if inner.head? = some 123 then [32] else []) ++ inner ++
      (conversion.elim [] fun letter => [33, letter.toNat]) ++ parts.after ":" .formatSpec) "\x7d"
  | .joinedStr =>
    match setting.form with
    | .formatted => parts.joined .values
    | _ =>
      ofString "f" ++
        if setting.plain then Quotation.write Quotes.all (parts.joined .values)
        else Quotation.writeParts (List.zipWith (fun text (child : Role × Tree α) =>
          (text, match child.2.label with | .constant _ => true | _ => false))
          (parts.all .values) children)
  | .constant value => constantText setting value
  | .member name _ =>
    parts.first .value ++ ofString ((if isWholeNumber .value children then " ." else ".") ++ name)
  | .subscript _ => parts.first .value ++ between "[" (parts.first .slice) "]"
  | .starred _ => ofString "*" ++ parts.first .value
  | .name id _ => ofString id
  | .list _ => between "[" (commas (parts.all .elts)) "]"
  | .tuple _ =>
    let texts := parts.all .elts
    if setting.form = .bare then items texts
    else if texts.isEmpty || Precedence.tuple < setting.precedence then
      between "(" (items texts) ")"
    else items texts
  | .slice => parts.first .lower ++ ofString ":" ++ parts.first .upper ++ parts.after ":" .step
  | _ => []

/-- Why a node cannot be part of a formatted text. -/
def partFault? : Label → Option PrintFault
  | .formattedValue _ | .joinedStr | .constant (.text ..) => none
  | label => some (.foreignPart label.typeName)

/-- Why a node has no text, given the texts of its children. -/
def fault? (label : Label) (parts : Parts) : Option PrintFault :=
  match label with
  | .formattedValue _ =>
    if (parts.first .value).contains 92 then some .backslashInField else none
  | .constant (.int number) =>
    if (Whole.decimal? number).isNone then some .tooManyDigits else none
  | _ => none

/-- The text of a node from the texts of its children. -/
def assemble (setting : Setting) (label : Label) (children : Forest α) (parts : Parts) :
    Except PrintFault CodePoints :=
  match fault? label parts with
  | some fault => .error fault
  | none => .ok <| match label.family with
    | .root => parts.joined .body
    | .statement => statement setting label children parts
    | .pattern => pattern setting label parts
    | .part => element setting label parts
    | .expression => expression setting label children parts

section Nodes

variable (given : α → Option Precedence)

mutual

/-- The text of a node in given surroundings; a statement begins with a line break. -/
def printIn (setting : Setting) : Tree α → Except PrintFault CodePoints
  | .node _ label children => do
    if setting.form = .formatted then
      if let some fault := partFault? label then throw fault
    assemble setting label children (← printForest setting label children [] children)

/-- The texts of the children of a node, after children of some roles. -/
def printForest (setting : Setting) (label : Label) (siblings : Forest α) (seen : List Role) :
    Forest α → Except PrintFault Parts
  | [] => .ok []
  | (role, tree) :: rest => do
    let around := setting.forChild label siblings role (seen.count role) tree
    let text ← printIn
      { around with precedence := (given tree.tag).getD around.precedence } tree
    let others ← printForest setting label siblings (role :: seen) rest
    return (role, text) :: others

end

end Nodes

end Printer

namespace Tree

variable {α : Type}

/-- The source text of a tree some of whose nodes say how tightly their surroundings bind, without a
line break at either end. -/
def printWith (given : α → Option Precedence) (tree : Tree α) : Except PrintFault String := do
  let text ← Printer.printIn given {} tree
  return CodePoints.toText (text.dropWhile (· = 10))

/-- The source text of a tree, without a line break at either end. -/
def print (tree : Tree α) : Except PrintFault String :=
  tree.printWith fun _ => none

end Tree

end IfChains
