/-
**What is said about the progress of an expansion.**

A remark belongs to the stage that makes it, which is named in front of its text.
-/

import IfChains.Location

namespace IfChains

/-- A remark about the progress of an expansion. -/
inductive Remark
  /-- The references to a name that were found in a file. -/
  | references (file : String) (count : Nat) (name : String)
  /-- A chain that was expanded. -/
  | expanded (entry : String) (location : Location)
  /-- The number of chains of an entry that were expanded. -/
  | total (count : Nat) (entry : String)
deriving DecidableEq, Repr

namespace Remark

/-- The stage that makes a remark. -/
def stage : Remark → String
  | references .. => "ifexpr.transformer"
  | expanded .. => "ifexpr.walker"
  | total .. => "ifexpr.dispatcher"

/-- The text of a remark. -/
def text : Remark → String
  | references file count name =>
    file ++ ": " ++ toString count ++ " reference(s) to " ++ name
  | expanded entry location => "expanded " ++ entry ++ "-chain at " ++ location.label
  | total count entry => "expanded " ++ toString count ++ " " ++ entry ++ "-chain(s)"

/-- The line that shows a remark. -/
def line (remark : Remark) : String :=
  remark.stage ++ ": " ++ remark.text

end Remark

end IfChains
