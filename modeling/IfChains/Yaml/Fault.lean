/-
**What can be wrong with a YAML text.**

A text is read in steps, and a fault belongs to the step that finds it: a character that is not
allowed, characters that make up no token, tokens that make up no node, names that refer to no node,
and nodes that stand for no value.
-/

import IfChains.Data.Calendar
import IfChains.Text.CodePoints

namespace IfChains

/-- What can be wrong with a YAML text. -/
inductive YamlFault
  /-- The text holds a character that is not allowed. -/
  | character
  /-- Some characters make up no token. -/
  | token
  /-- Some tokens make up no node. -/
  | arrangement
  /-- A name refers to no node, or to two, or there are two documents. -/
  | reference
  /-- A node stands for no value. -/
  | value
  /-- An escape numbers no code point; `huge` if the number is beyond all words. -/
  | escape (huge : Bool)
  /-- A text is tagged as an integer of some base and is none. -/
  | integer (base : Nat) (text : CodePoints)
  /-- A text is tagged as an integer and has too many digits. -/
  | tooManyDigits (count : Nat)
  /-- A text is tagged as a floating-point number and is none. -/
  | float (text : CodePoints)
  /-- A text is tagged as a truth value and is none. -/
  | truth (text : CodePoints)
  /-- An empty text is tagged as a number. -/
  | noDigits
  /-- A text has the form of a day or a time that does not exist. -/
  | calendar (fault : CalendarFault)
  /-- A text is tagged as a time and has not the form of one. -/
  | noTime
  /-- A mapping is tagged as a time. -/
  | timeOfMapping
deriving DecidableEq, Repr

end IfChains
