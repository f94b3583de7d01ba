/-
**Merging mappings level by level.**

What overrides a mapping is put into it key by key; where both hold a mapping, these are merged, and
otherwise the overriding value counts. A mark for an enclosing mapping counts as a value.
-/

import IfChains.Data.Value

namespace IfChains

namespace Data

mutual

/-- An overriding value, merged with the value that it overrides. -/
def mergeInto (base : Option Data) : Data → Data
  | .mapping entries =>
    match base with
    | some (.mapping old) => .mapping (mergeEntries old entries)
    | _ => .mapping entries
  | value => value

/-- A mapping with overriding entries. -/
def mergeEntries (base : Mapping) : List (Scalar × Data) → Mapping
  | [] => base
  | (key, value) :: rest =>
    mergeEntries (base.put key (mergeInto (base.get? key) value)) rest

end

/-- A value that overrides another one. -/
def merge (base override : Data) : Data :=
  mergeInto (some base) override

end Data

end IfChains
