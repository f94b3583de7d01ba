/-
**What can stop a command besides a report.**

A command stops when a file cannot be read or written, when the settings cannot be read or hold
values that do not fit, when the expanded tree cannot be printed, or when the program that it runs
raises something.
-/

import IfChains.Program.Value
import IfChains.Settings.Cache
import IfChains.Settings.Section
import IfChains.Transform

namespace IfChains

namespace YamlFault

/-- The wording of a fault of a value; what is wrong with a text otherwise has none. Of a text that
is no integer only the beginning is shown. -/
def message? : YamlFault → Option String
  | integer base text =>
    some ("invalid literal for int() with base " ++ toString base ++ ": " ++
      String.ofList ((CodePoints.quoted text).take 200))
  | tooManyDigits count => some (Whole.limitReport (some count))
  | float text => some ("could not convert string to float: " ++ shown text)
  | truth text => some (shown text)
  | noDigits => some "string index out of range"
  | calendar fault => some fault.message
  | noTime => some "'NoneType' object has no attribute 'groupdict'"
  | timeOfMapping => some "expected string or bytes-like object, got 'list'"
  | escape false => some "chr() arg not in range(0x110000)"
  | escape true => some "Python int too large to convert to C int"
  | character | token | arrangement | reference | value => none
where
  /-- A text between quotes. -/
  shown (text : CodePoints) : String :=
    String.ofList (CodePoints.quoted text)

end YamlFault

/-- Why a command stops. -/
inductive Failure
  | file (fault : FileFault)
  | bytes (fault : Utf8.Fault)
  | halves (fault : Utf8.Halves)
  | yaml (fault : YamlFault)
  | lookup (fault : LookupFault)
  | level (fault : LevelFault)
  /-- A suffix that is no text but a value of some type. -/
  | suffix (typeName : String)
  | expansion (fault : Fault)
  | program (exception : Program.Exception)
  | beyond
deriving Repr

namespace Failure

/-- The failure to read a file. -/
def ofRead : ReadFault → Failure
  | .file fault => file fault
  | .bytes fault => bytes fault

/-- The failure to read settings. -/
def ofSettings : SettingsFault → Failure
  | .unreadable fault => ofRead fault
  | .malformed fault => yaml fault

/-- The wording of a failure, if it has one. -/
def message? : Failure → Option String
  | file fault => some fault.message
  | bytes fault => some fault.message
  | halves fault => some fault.message
  | yaml fault => fault.message?
  | lookup fault => some fault.message
  | level fault => some fault.message
  | suffix typeName => some ("can only concatenate str (not \"" ++ typeName ++ "\") to str")
  | expansion fault => some fault.text
  | program exception => some exception.message
  | beyond => none

end Failure

namespace Transform

/-- Expands the chains of a program whose macro comes from the module that settings name. -/
def underSettings (settings : Data) (origin : Origin) (file source : String) :
    Except LookupFault Outcome := do
  return transform (← settings.macroModule) origin file source

end Transform

end IfChains
