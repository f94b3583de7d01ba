/-
**Tokens of a YAML text.**

Indentation is told by tokens of its own: a block collection begins with a token that no character
stands for and ends with another one.
-/

import IfChains.Yaml.Fault

namespace IfChains

namespace Yaml

/-- A directive in front of a document. -/
inductive Directive
  | version (major minor : Nat)
  | handle (name start : String)
  | other
deriving DecidableEq, Repr

/-- A token. -/
inductive Token
  | streamEnd
  | directive (directive : Directive)
  | documentStart
  | documentEnd
  | blockSequenceStart
  | blockMappingStart
  | blockEnd
  | flowSequenceStart
  | flowMappingStart
  | flowSequenceEnd
  | flowMappingEnd
  | key
  | value
  | blockItem
  | flowItem
  | reference (name : String)
  | anchor (name : String)
  | tag (handle : Option String) (suffix : String)
  | scalar (text : CodePoints) (plain : Bool)
deriving DecidableEq, Repr

end Yaml

end IfChains
