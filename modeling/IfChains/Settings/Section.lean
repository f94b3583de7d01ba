/-
**Looking things up in settings.**

Settings are looked up section by section. A value that is no mapping has no sections, and looking
one up in it is a fault. The level of a log is a number or the name of one.
-/

import IfChains.Data.Value

namespace IfChains

/-- A value in which a section is looked up, but which has none. -/
inductive LookupFault
  | noMapping (typeName : String)
  | text
  | bytes
  | list
  | noKey (key : String)
deriving DecidableEq, Repr

namespace LookupFault

/-- The wording of a fault. -/
def message : LookupFault → String
  | noMapping typeName => "'" ++ typeName ++ "' object is not subscriptable"
  | text => "string indices must be integers, not 'str'"
  | bytes => "byte indices must be integers or slices, not str"
  | list => "list indices must be integers or slices, not str"
  | noKey key => quotedText key

end LookupFault

namespace Data

/-- The value of a section. -/
def lookUp (key : String) : Data → Except LookupFault Data
  | mapping entries =>
    match Mapping.get? (.ofString key) entries with
    | some value => .ok value
    | none => .error (.noKey key)
  | list _ => .error .list
  | scalar (.text _) => .error .text
  | scalar (.bytes _) => .error .bytes
  | value => .error (.noMapping value.typeName)

/-- The value of a section of a section. -/
def lookUpIn (section_ key : String) (data : Data) : Except LookupFault Data := do
  (← data.lookUp section_).lookUp key

/-- The module of the macro. A value that is no text names no module. -/
def macroModule (settings : Data) : Except LookupFault String := do
  match ← settings.lookUpIn "macro" "module" with
  | scalar (.text module) => return CodePoints.toText module
  | _ => return ""

end Data

/-- A value that is no level of a log. -/
inductive LevelFault
  | unknown (name : CodePoints)
  | noLevel (value : Data)
deriving Repr

namespace LevelFault

/-- The wording of a fault. -/
def message : LevelFault → String
  | unknown name => "Unknown level: " ++ String.ofList (CodePoints.quoted name)
  | noLevel value => "Level not an integer or a valid string: " ++ value.shown

end LevelFault

namespace LogLevel

/-- The level that counts when none is set. -/
def default : Int := 30

/-- The level at which remarks are shown. -/
def remarks : Int := 10

/-- The level of a name. -/
def ofName? : String → Option Int
  | "CRITICAL" | "FATAL" => some 50
  | "ERROR" => some 40
  | "WARNING" | "WARN" => some 30
  | "INFO" => some 20
  | "DEBUG" => some 10
  | "NOTSET" => some 0
  | _ => none

/-- The level that a value stands for. -/
def ofData : Data → Except LevelFault Int
  | .scalar .null => .ok default
  | .scalar (.bool value) => .ok (if value then 1 else 0)
  | .scalar (.int value) => .ok value
  | .scalar (.text name) =>
    match ofName? (CodePoints.toText name) with
    | some level => .ok level
    | none => .error (.unknown name)
  | value => .error (.noLevel value)

/-- Whether remarks are shown at a level. -/
def showsRemarks (level : Int) : Bool :=
  level ≤ remarks

end LogLevel

end IfChains
