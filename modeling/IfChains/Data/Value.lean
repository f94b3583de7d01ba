/-
**Values of settings.**

A value is a scalar, a list, a mapping from scalars to values, a set of scalars, or a pair. Two
scalars are one key if they are equal, where numbers count by their value: a truth value is one or
zero, and a floating-point number that is whole is that integer. A list or a mapping that holds
itself has a mark in that place.

* `get?_put_same`, `get?_put_other`: a mapping holds what was put into it last.
-/

import IfChains.Data.Calendar
import IfChains.Numeral.Floating
import IfChains.Text.Quoted

namespace IfChains

/-- A value without parts. -/
inductive Scalar
  | null
  | bool (value : Bool)
  | int (value : Int)
  | float (value : Floating)
  | text (value : CodePoints)
  | bytes (value : List Nat)
  | day (value : Day)
  | moment (value : Moment)
deriving DecidableEq, Repr

namespace Scalar

/-- A text of characters as a scalar. -/
def ofString (value : String) : Scalar :=
  text (CodePoints.ofString value)

/-- A scalar as a key. -/
def asKey : Scalar → Scalar
  | bool value => int (if value then 1 else 0)
  | float value => match value.toInt? with
    | some whole => int whole
    | none => float value
  | scalar => scalar

/-- The name of the type of a scalar. -/
def typeName : Scalar → String
  | null => "NoneType"
  | bool _ => "bool"
  | int _ => "int"
  | float _ => "float"
  | text _ => "str"
  | bytes _ => "bytes"
  | day _ => "datetime.date"
  | moment _ => "datetime.datetime"

/-- A scalar written down. -/
def shown : Scalar → String
  | null => "None"
  | bool value => if value then "True" else "False"
  | int value => toString value
  | float value => value.text
  | text value => String.ofList (CodePoints.quoted value)
  | bytes value => String.ofList (CodePoints.quotedBytes value)
  | day value => value.shown
  | moment value => value.shown

end Scalar

/-- A value. -/
inductive Data
  | scalar (value : Scalar)
  | list (items : List Data)
  | mapping (entries : List (Scalar × Data))
  | set (items : List Scalar)
  | pair (first second : Data)
  /-- The list, or else the mapping, that this place is part of. -/
  | enclosing ( isList : Bool)
deriving Repr

instance : Inhabited Data := ⟨.scalar .null⟩

/-- The entries of a mapping, in the order in which their keys came first. -/
abbrev Mapping := List (Scalar × Data)

namespace Data

/-- A text as a value. -/
def text (value : String) : Data :=
  scalar (.ofString value)

/-- The name of the type of a value. -/
def typeName : Data → String
  | scalar value => value.typeName
  | list _ | enclosing true => "list"
  | mapping _ | enclosing false => "dict"
  | set _ => "set"
  | pair .. => "tuple"

mutual

/-- A value written down. -/
def shown : Data → String
  | scalar value => value.shown
  | list items => "[" ++ ", ".intercalate (shownItems items) ++ "]"
  | mapping entries => "\x7b" ++ ", ".intercalate (shownEntries entries) ++ "\x7d"
  | set [] => "set()"
  | set items => "\x7b" ++ ", ".intercalate (items.map Scalar.shown) ++ "\x7d"
  | pair first second => "(" ++ shown first ++ ", " ++ shown second ++ ")"
  | enclosing true => "[...]"
  | enclosing false => "\x7b...\x7d"

/-- The items of a list written down. -/
def shownItems : List Data → List String
  | [] => []
  | item :: rest => shown item :: shownItems rest

/-- The entries of a mapping written down. -/
def shownEntries : List (Scalar × Data) → List String
  | [] => []
  | (key, value) :: rest => (key.shown ++ ": " ++ shown value) :: shownEntries rest

end

end Data

namespace Mapping

/-- The value of a key. -/
def get? (key : Scalar) : Mapping → Option Data
  | [] => none
  | (other, value) :: rest => if other.asKey = key.asKey then some value else get? key rest

/-- Gives a key a value; a new key comes last, and one that is there stays in its place. -/
def put (key : Scalar) (value : Data) : Mapping → Mapping
  | [] => [(key, value)]
  | (other, old) :: rest =>
    if other.asKey = key.asKey then (other, value) :: rest else (other, old) :: put key value rest

section Lemmas

variable (mapping : Mapping) (key other : Scalar) (value : Data)

/-- A key has the value it was given. -/
@[simp]
theorem get?_put_same : get? key (put key value mapping) = some value := by
  induction mapping with
  | nil => simp [put, get?]
  | cons first rest ih =>
    obtain ⟨here, old⟩ := first
    by_cases same : here.asKey = key.asKey <;> simp [put, get?, same, ih]

/-- The other keys keep their values. -/
theorem get?_put_other (different : key.asKey ≠ other.asKey) :
    get? other (put key value mapping) = get? other mapping := by
  induction mapping with
  | nil => simp [put, get?, different]
  | cons first rest ih =>
    obtain ⟨here, old⟩ := first
    by_cases same : here.asKey = key.asKey
    · simp [put, get?, same, different]
    · simp only [put, same, if_false, get?, ih]

end Lemmas

end Mapping

end IfChains
