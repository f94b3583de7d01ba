/-
**Running programs.**

Terms are evaluated from left to right, and of a conditional only the branch that is chosen. What a
program has written stays written when something is raised.
-/

import IfChains.Files.Path
import IfChains.Imports
import IfChains.Program.Term
import IfChains.Program.Value
import IfChains.Report
import IfChains.Source
import IfChains.Text.Case

namespace IfChains

namespace Program

/-- What a program works on: the values of its names, and what has been written. -/
structure Machine where
  streams : Streams
  names : List (String × Value) := [("__name__", .text (CodePoints.ofString "__main__"))]
deriving Repr

/-- Why a program stops before its end. -/
inductive Stop
  | raised (exception : Exception)
  | beyond
deriving Repr

/-- A step of a program. -/
abbrev Exec := ExceptT Stop (StateM Machine)

section Basics

/-- Raises an exception with a text. -/
def raising {α : Type} (kind : ExceptionKind) (text : String) : Exec α :=
  throw (.raised (.saying kind text))

/-- Stops unless there is a value. -/
def orBeyond {α : Type} (value : Option α) : Exec α :=
  match value with
  | some value => return value
  | none => throw .beyond

/-- Writes a text. -/
def emit (channel : Channel) (text : CodePoints) : Exec Unit :=
  modify fun machine => { machine with streams := machine.streams.write channel text }

/-- The values of names that need not be bound. -/
def builtIn? : String → Option Value
  | "print" => some (.callable .print)
  | "ValueError" => some (.callable (.exception .value))
  | "KeyError" => some (.callable (.exception .key))
  | "NameError" => some (.callable (.exception .unbound))
  | "IndexError" => some (.callable (.exception .index))
  | "ZeroDivisionError" => some (.callable (.exception .zeroDivision))
  | "SystemExit" => some (.callable (.exception .exit))
  | _ => none

/-- The value of a name. -/
def valueOf (name : String) : Exec Value := do
  match ((← get).names.lookup name).or (builtIn? name) with
  | some value => return value
  | none => raising .unbound ("name '" ++ name ++ "' is not defined")

/-- Gives a name a value. -/
def bindName (name : String) (value : Value) : Exec Unit :=
  modify fun machine => { machine with names := (name, value) :: machine.names }

end Basics

section Operations

/-- Whether a value is greater than another one. -/
def greaterThan (left right : Value) : Exec Value := do
  return .bool (decide ((← orBeyond right.toInt?) < (← orBeyond left.toInt?)))

/-- A value divided by another one, which has to be zero. -/
def dividedBy (left right : Value) : Exec Value := do
  let _ ← orBeyond left.toInt?
  if (← orBeyond right.toInt?) = 0 then raising .zeroDivision "division by zero" else throw .beyond

/-- An item of a tuple; negative numbers count from its end. -/
def itemOf (base index : Value) : Exec Value := do
  match base, index.toInt? with
  | .tuple items, some place =>
    let place := if place < 0 then place + items.length else place
    if place < 0 then raising .index "tuple index out of range"
    match items[place.toNat]? with
    | some item => return item
    | none => raising .index "tuple index out of range"
  | _, _ => throw .beyond

/-- A member of a value. -/
def memberOf (base : Value) (name : String) : Exec Value :=
  match base, name with
  | .system, "stdout" => return .channel .out
  | .system, "stderr" => return .channel .err
  | .channel channel, "write" => return .callable (.write channel)
  | .text text, "upper" => return .callable (.capitals text)
  | _, _ => throw .beyond

/-- The text of a keyword argument, which counts as missing if it is nothing. -/
def textOption (keywords : List (String × Value)) (name default : String) : Exec CodePoints :=
  match keywords.lookup name with
  | none | some .none => return CodePoints.ofString default
  | some (.text text) => return text
  | some _ => throw .beyond

/-- Prints values with a separator before each but the first. -/
def printAll (separator : CodePoints) : List Value → Exec Unit
  | [] => return
  | value :: rest => do
    if value.isTooLong then raising .value (Whole.limitReport none)
    emit .out (← orBeyond value.text?)
    if !rest.isEmpty then emit .out separator
    printAll separator rest

/-- Calls something. -/
def invoke (callee : Value) (arguments : List Value) (keywords : List (String × Value)) :
    Exec Value := do
  match callee, arguments with
  | .callable .print, _ =>
    if keywords.any fun keyword => keyword.1 != "sep" && keyword.1 != "end" then throw .beyond
    let separator ← textOption keywords "sep" " "
    let ending ← textOption keywords "end" "\n"
    printAll separator arguments
    emit .out ending
    return .none
  | .callable (.write channel), [.text text] =>
    emit channel text
    return .int text.length
  | .callable (.capitals text), [] => return .text (Case.capitals text)
  | .callable (.exception kind), _ => return .exception kind arguments
  | .callable .macro_, [_] => raising .unexpanded Report.notExpanded
  | _, _ => throw .beyond

end Operations

section Evaluation

mutual

/-- The value of a term. -/
def eval : Term → Exec Value
  | .none => return .none
  | .bool value => return .bool value
  | .int value => return .int value
  | .text value => return .text value
  | .name id => valueOf id
  | .greater left right => do
    let first ← eval left
    greaterThan first (← eval right)
  | .quotient left right => do
    let first ← eval left
    dividedBy first (← eval right)
  | .negative operand => do
    let value ← eval operand
    return .int (-(← orBeyond value.toInt?))
  | .conditional test consequent alternate => do
    let value ← eval test
    if value.isTrue then eval consequent else eval alternate
  | .tuple items => do return .tuple (← evalAll items)
  | .item base index => do
    let value ← eval base
    itemOf value (← eval index)
  | .member base name => do memberOf (← eval base) name
  | .call callee arguments keywords => do
    let value ← eval callee
    let values ← evalAll arguments
    invoke value values (← evalKeywords keywords)

/-- The values of terms, from left to right. -/
def evalAll : List Term → Exec (List Value)
  | [] => return []
  | term :: rest => do
    let value ← eval term
    return value :: (← evalAll rest)

/-- The values of keyword arguments, from left to right. -/
def evalKeywords : List (String × Term) → Exec (List (String × Value))
  | [] => return []
  | (name, term) :: rest => do
    let value ← eval term
    return (name, value) :: (← evalKeywords rest)

end

/-- Follows an instruction. -/
def follow : Instruction → Exec Unit
  | .assign name value => do bindName name (← eval value)
  | .evaluate value => do let _ ← eval value
  | .bind name .system => bindName name .system
  | .bind name .macro_ => bindName name (.callable .macro_)
  | .raise value => do
    match ← eval value with
    | .exception kind arguments => throw (.raised ⟨kind, arguments⟩)
    | .callable (.exception kind) => throw (.raised ⟨kind, []⟩)
    | _ => throw .beyond

/-- Follows instructions one after the other, up to the first that stops. -/
def followAll (instructions : List Instruction) : Exec Unit :=
  instructions.forM follow

/-- How following instructions ends. -/
def execute (instructions : List Instruction) : StateM Streams Ending := fun streams =>
  let (result, machine) := (followAll instructions).run { streams := streams }
  let ending := match result with
    | .ok _ => Ending.finished
    | .error (.raised exception) => .raised exception
    | .error .beyond => .beyond
  (ending, machine.streams)

end Evaluation

/-- The module that the macro comes from when a program runs. -/
def macroHome : String := "ifexpr.macro"

/-- The exception of a program that is malformed at some line. -/
def malformed (file message : String) (line : Int) : Exception :=
  .saying .malformed (message ++ " (" ++ Path.baseName file ++ ", line " ++ toString line ++ ")")

/-- Runs the text of a program. -/
def run (file source : String) : StateM Streams Ending :=
  match Source.read .loose source with
  | .error failure =>
    return .raised (malformed file failure.fault.message failure.line)
  | .ok tree =>
    match strayReturn tree with
    | some place =>
      return .raised (malformed file "'return' outside function" (Location.ofPosition place).line)
    | none =>
      match Instruction.ofModule macroHome macroSymbol tree with
      | some instructions => execute instructions
      | none => return .beyond

end Program

end IfChains
