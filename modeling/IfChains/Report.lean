/-
**Reports of faults.**

A report belongs to a category; each category but the most general one is part of another. Its text
ends with the location, if there is one.
-/

import IfChains.Location

namespace IfChains

/-- The categories of reports. -/
inductive Category
  | general | parse | expansion | binding | chainShape
deriving DecidableEq, Repr

namespace Category

/-- The name of a category. -/
def name : Category → String
  | general => "IfExprError"
  | parse => "ParseError"
  | expansion => "MacroError"
  | binding => "BindingError"
  | chainShape => "ChainShapeError"

/-- All categories, each after the one that it is part of. -/
def all : List Category :=
  [general, parse, expansion, binding, chainShape]

/-- The category of a name. -/
def ofName? (name : String) : Option Category :=
  all.find? fun category => category.name == name

/-- The category that a category is directly part of. -/
def parent? : Category → Option Category
  | general => none
  | parse | expansion => some general
  | binding | chainShape => some expansion

/-- Whether a category is another one or a part of it. -/
def isA (category other : Category) : Bool :=
  category == other || match category with
    | general => false
    | parse | expansion => other == general
    | binding | chainShape => other == expansion || other == general

end Category

/-- A report of a fault. -/
structure Report where
  category : Category
  message : String
  location : Location := {}
deriving DecidableEq, Repr

namespace Report

/-- The text of a report: its message, and its location if there is one. -/
def text (report : Report) : String :=
  if report.location.label.isEmpty then report.message
  else report.message ++ " at " ++ report.location.label

/-- The text of the failure that a chain meets when it runs without having been expanded. -/
def notExpanded : String :=
  "If-chain was not expanded; run this file through ifexpr (ifexpr build/run) before executing it"

end Report

end IfChains
