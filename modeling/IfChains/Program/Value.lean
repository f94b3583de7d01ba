/-
**Values that programs compute with, and how programs end.**

A program computes with simple values and calls a few things that are built in. It ends at its last
statement, or where something is raised that nothing catches.
-/

import IfChains.Numeral.Whole
import IfChains.Program.Streams
import IfChains.Text.Quoted

namespace IfChains

namespace Program

/-- The kinds of exceptions. -/
inductive ExceptionKind
  | value | key | unbound | index | zeroDivision | unexpanded | malformed | exit
deriving DecidableEq, Repr

/-- The name of a kind of exception. -/
def ExceptionKind.name : ExceptionKind → String
  | value => "ValueError"
  | key => "KeyError"
  | unbound => "NameError"
  | index => "IndexError"
  | zeroDivision => "ZeroDivisionError"
  | unexpanded => "MacroNotExpandedError"
  | malformed => "SyntaxError"
  | exit => "SystemExit"

/-- What can be called. -/
inductive Callable
  | print
  | write (channel : Channel)
  | capitals (text : CodePoints)
  | exception (kind : ExceptionKind)
  | macro_
deriving DecidableEq, Repr

/-- A value. -/
inductive Value
  | none
  | bool (value : Bool)
  | int (value : Int)
  | text (value : CodePoints)
  | tuple (items : List Value)
  | callable (callable : Callable)
  | system
  | channel (channel : Channel)
  | exception (kind : ExceptionKind) (arguments : List Value)
deriving Repr

instance : Inhabited Value := ⟨.none⟩

namespace Value

/-- Whether a value counts as true. -/
def isTrue : Value → Bool
  | none => false
  | bool value => value
  | int value => value != 0
  | text value => !value.isEmpty
  | tuple items => !items.isEmpty
  | _ => true

/-- The number that a value is in a comparison or a calculation. -/
def toInt? : Value → Option Int
  | bool value => some (if value then 1 else 0)
  | int value => some value
  | _ => Option.none

mutual

/-- A value written down; nothing for values that are not written. -/
def shown? : Value → Option String
  | none => some "None"
  | bool value => some (if value then "True" else "False")
  | int value => some (toString value)
  | text value => some (String.ofList (CodePoints.quoted value))
  | tuple items => (shownItems? items).map fun texts =>
    match texts with
    | [single] => "(" ++ single ++ ",)"
    | texts => "(" ++ ", ".intercalate texts ++ ")"
  | _ => Option.none

/-- The items of a tuple written down. -/
def shownItems? : List Value → Option (List String)
  | [] => some []
  | item :: rest => do return (← shown? item) :: (← shownItems? rest)

end

mutual

/-- Whether a value holds a whole number with too many digits to be written. -/
def isTooLong : Value → Bool
  | int value => (Whole.decimal? value.natAbs).isNone
  | tuple items => anyTooLong items
  | _ => false

/-- Whether one of some values holds a whole number with too many digits to be written. -/
def anyTooLong : List Value → Bool
  | [] => false
  | item :: rest => isTooLong item || anyTooLong rest

end

/-- A value as it is printed; a text is printed as it is. -/
def text? : Value → Option CodePoints
  | text value => some value
  | value => value.shown?.map CodePoints.ofString

end Value

/-- Something that was raised. -/
structure Exception where
  kind : ExceptionKind
  arguments : List Value
deriving Repr

namespace Exception

/-- An exception with a text. -/
def saying (kind : ExceptionKind) (text : String) : Exception :=
  ⟨kind, [.text (CodePoints.ofString text)]⟩

/-- The text of an exception. -/
def message (exception : Exception) : String :=
  match exception.kind, exception.arguments with
  | _, [] => ""
  | .key, [argument] => argument.shown?.getD ""
  | _, [argument] => CodePoints.toText (argument.text?.getD [])
  | _, arguments => (Value.tuple arguments).shown?.getD ""

/-- The exit code that an exception asks for. -/
def exitCode? (exception : Exception) : Option Value :=
  match exception.kind, exception.arguments with
  | .exit, [] => some .none
  | .exit, [code] => some code
  | .exit, arguments => some (.tuple arguments)
  | _, _ => none

end Exception

/-- How a program ends. -/
inductive Ending
  | finished
  | raised (exception : Exception)
  /-- The program does something that programs of this kind do not do. -/
  | beyond
deriving Repr

end Program

end IfChains
