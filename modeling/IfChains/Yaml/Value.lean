/-
**The value of a YAML text.**

The entries of mappings that a mapping is told to merge come before its own, so that its own count.
Each node stands for a value according to its tag. A collection is checked level by level: those of
the next level are looked at when all of this level have been, so that a fault near the root counts
before one far from it. A key has to be a scalar.

A collection that holds itself is written out anew in the first levels, where settings are looked
up, and has a mark for itself below them.
-/

import IfChains.Data.Value
import IfChains.Yaml.Node
import IfChains.Yaml.Number

namespace IfChains

namespace Yaml

namespace Graph

/-- The node of a number. -/
def node (graph : Graph) (number : NodeNumber) : Node :=
  graph.nodes.getD number default

/-- The tag of a node. -/
def tag (graph : Graph) (number : NodeNumber) : String :=
  match graph.node number with
  | .scalar tag _ | .sequence tag _ | .mapping tag _ => tag

section Merging

/-- The entries of a mapping, those it is told to merge first. A mapping that is being merged
already has its own entries only; of several mappings merged at once, the first one counts most. -/
def entries (graph : Graph) : (depth : Nat) → (merging : List NodeNumber) → NodeNumber →
    Except YamlFault (List (NodeNumber × NodeNumber))
  | 0, _, _ => .ok []
  | depth + 1, merging, number =>
    match graph.node number with
    | .mapping _ all => do
      let isMerge := fun (entry : NodeNumber × NodeNumber) => graph.tag entry.1 == Tag.merge
      let own := all.filter fun entry => !isMerge entry
      if merging.contains number then return own
      let mergedFrom := graph.entries depth (number :: merging)
      let brought ← (all.filter isMerge).mapM fun entry =>
        match graph.node entry.2 with
        | .mapping .. => mergedFrom entry.2
        | .sequence _ items => do return (← items.mapM mergedFrom).reverse.flatten
        | .scalar .. => .error .value
      return brought.flatten ++ own
    | _ => .error .value

/-- The entries of a mapping with those it is told to merge. -/
def allEntries (graph : Graph) (number : NodeNumber) :
    Except YamlFault (List (NodeNumber × NodeNumber)) :=
  graph.entries (graph.nodes.size + 1) [] number

end Merging

section Scalars

/-- The text of a node that is tagged as a scalar: a mapping has the text behind the mark for a
value. -/
def textOf (graph : Graph) : (depth : Nat) → NodeNumber → Except YamlFault CodePoints
  | 0, _ => .error .value
  | depth + 1, number =>
    match graph.node number with
    | .scalar _ text => .ok text
    | .sequence .. => .error .value
    | .mapping _ all =>
      match all.find? fun entry => graph.tag entry.1 == Tag.value with
      | some entry => graph.textOf depth entry.2
      | none => .error .value

/-- The value of a day or a time. -/
def timeOf (text : CodePoints) : Except YamlFault Scalar :=
  let chars := (CodePoints.toText text).toList
  let chars := if chars.getLast? = some '\n' then chars.dropLast else chars
  let placed {α : Type} (result : Except CalendarFault α) : Except YamlFault α :=
    result.mapError YamlFault.calendar
  match Timestamp.ofText? chars with
  | none => .error .noTime
  | some ⟨year, month, day, none⟩ => placed (Scalar.day <$> Day.of year month day)
  | some ⟨year, month, day, some time⟩ => do
    let zone ← time.zone.mapM fun minutes => placed (Moment.zoneOf minutes)
    let digits := (time.fraction ++ List.replicate 6 '0').take 6
    let fraction := digits.foldl (fun value digit => 10 * value + (digit.toNat - 48)) 0
    placed (Scalar.moment <$>
      Moment.of year month day ⟨time.hour, time.minute, time.second, fraction⟩ zone)

/-- The value of a digit that stands for six bits. -/
def sixBits? (point : Nat) : Option Nat :=
  if 65 ≤ point && point ≤ 90 then some (point - 65)
  else if 97 ≤ point && point ≤ 122 then some (point - 71)
  else if 48 ≤ point && point ≤ 57 then some (point + 4)
  else if point = 43 then some 62
  else if point = 47 then some 63
  else none

/-- The bytes that digits of six bits spell, given the number of digits since the last whole group,
the bits that are left over, and the number of padding marks. Padding ends the text where it
completes a group; other characters do not count. -/
def bytesFrom (place held marks : Nat) : CodePoints → Option (List Nat)
  | [] => if place = 0 then some [] else none
  | 0x3D :: rest =>
    if 2 ≤ place && 4 ≤ place + marks + 1 then some []
    else bytesFrom place held (marks + 1) rest
  | point :: rest =>
    match sixBits? point with
    | none => bytesFrom place held marks rest
    | some bits =>
      match place with
      | 0 => bytesFrom 1 bits 0 rest
      | 1 => (bytesFrom 2 (bits % 16) 0 rest).map ((4 * held + bits / 16) :: ·)
      | 2 => (bytesFrom 3 (bits % 4) 0 rest).map ((16 * held + bits / 4) :: ·)
      | _ => (bytesFrom 0 0 0 rest).map ((64 * held + bits) :: ·)

/-- The bytes that a text spells. -/
def bytesOf (text : CodePoints) : Except YamlFault (List Nat) :=
  if text.any (128 ≤ ·) then .error .value
  else match bytesFrom 0 0 0 text with
    | some bytes => .ok bytes
    | none => .error .value

/-- The tags of scalars. -/
def scalarTags : List String :=
  [Tag.null, Tag.truth, Tag.integer, Tag.float, Tag.text, Tag.date, Tag.bytes]

/-- The tags of collections. -/
def collectionTags : List String :=
  [Tag.sequence, Tag.mapping, Tag.set, Tag.ordered, Tag.pairs]

/-- The value of a node that is tagged as a scalar. -/
def scalarOf (graph : Graph) (tag : String) (number : NodeNumber) : Except YamlFault Scalar := do
  let text ← graph.textOf (graph.nodes.size + 1) number
  if tag == Tag.null then return .null
  else if tag == Tag.truth then return .bool (← truth text)
  else if tag == Tag.integer then return .int (← integer text)
  else if tag == Tag.float then return .float (← floating text)
  else if tag == Tag.bytes then return .bytes (← bytesOf text)
  else if tag == Tag.date then
    match graph.node number with
    | .scalar .. => timeOf text
    | _ => throw .timeOfMapping
  else return .text text

/-- The value of a key, which has to be a scalar; the mark for a value is a text. -/
def keyOf (graph : Graph) (number : NodeNumber) : Except YamlFault Scalar :=
  let tag := graph.tag number
  if tag == Tag.value then graph.scalarOf Tag.text number
  else if scalarTags.contains tag then graph.scalarOf tag number
  else .error .value

end Scalars

section Checking

/-- What is checked when a collection is: its parts, those that are keys marked. -/
abbrev Checks := List (NodeNumber × Bool)

/-- The parts of a mapping that are checked. -/
def entryChecks (entries : List (NodeNumber × NodeNumber)) : Checks :=
  entries.flatMap fun entry => [(entry.1, true), (entry.2, false)]

/-- The parts of a collection in the order in which they are checked; a sequence of pairs is told by
one entry each. -/
def parts (graph : Graph) (number : NodeNumber) : Except YamlFault Checks :=
  let tag := graph.tag number
  match graph.node number with
  | .sequence _ items =>
    if tag == Tag.sequence then .ok (items.map (·, false))
    else .error .value
  | .mapping .. =>
    if tag == Tag.mapping || tag == Tag.set then entryChecks <$> graph.allEntries number
    else .error .value
  | .scalar .. => .error .value

/-- The collections that have been met, and those among them that come next, the last one first. -/
structure Met where
  all : List NodeNumber
  next : List NodeNumber := []

/-- Checks a part: a scalar at once, a collection later unless it has been met. -/
def checkPart (graph : Graph) (met : Met) (part : NodeNumber × Bool) : Except YamlFault Met := do
  let (number, isKey) := part
  let tag := graph.tag number
  if collectionTags.contains tag then
    if isKey then throw .value
    if met.all.contains number then return met
    return ⟨number :: met.all, number :: met.next⟩
  else
    let _ ← if isKey then graph.keyOf number
      else if scalarTags.contains tag then graph.scalarOf tag number else throw .value
    return met

/-- The entry that a part of a sequence of pairs has. -/
def soleEntry (graph : Graph) (number : NodeNumber) :
    Except YamlFault (NodeNumber × NodeNumber) :=
  match graph.node number with
  | .mapping _ [entry] => .ok entry
  | _ => .error .value

/-- Checks the parts of a sequence of pairs. -/
def checkPairs (graph : Graph) (met : Met) (items : List NodeNumber) : Except YamlFault Met :=
  items.foldlM (fun met item => do
    let (key, value) ← graph.soleEntry item
    graph.checkPart (← graph.checkPart met (key, false)) (value, false)) met

/-- Checks the parts of a collection. -/
def checkCollection (graph : Graph) (met : Met) (number : NodeNumber) : Except YamlFault Met := do
  let tag := graph.tag number
  match graph.node number with
  | .sequence _ items =>
    if tag == Tag.ordered || tag == Tag.pairs then graph.checkPairs met items
    else (← graph.parts number).foldlM graph.checkPart met
  | _ => (← graph.parts number).foldlM graph.checkPart met

/-- Checks collections level by level, down to a depth. -/
def checkLevels (graph : Graph) : (depth : Nat) → Met → Except YamlFault Unit
  | 0, _ => .ok ()
  | depth + 1, met => do
    if met.next.isEmpty then return
    let next ← met.next.reverse.foldlM graph.checkCollection { met with next := [] }
    graph.checkLevels depth next

/-- Checks all nodes; each level holds a collection that those before it do not. -/
def check (graph : Graph) : Except YamlFault Unit := do
  graph.checkLevels (graph.nodes.size + 1) (← graph.checkPart ⟨[], []⟩ (graph.root, false))

end Checking

section Values

/-- The value of a node in collections that are being read, at a depth, with a bound on the number
of steps. Collections at the first depths, where settings are looked up, do not count as being
read. -/
def valueOf (graph : Graph) : (steps : Nat) → (path : List NodeNumber) → (depth : Nat) →
    NodeNumber → Except YamlFault Data
  | 0, _, _, _ => .error .value
  | steps + 1, path, depth, number =>
    let tag := graph.tag number
    let within := if depth < lookUps then [] else number :: path
    let part := graph.valueOf steps within (depth + 1)
    if scalarTags.contains tag then Data.scalar <$> graph.scalarOf tag number
    else match graph.node number with
    | .scalar .. => .error .value
    | .sequence _ items =>
      if path.contains number then .ok (.enclosing true)
      else if tag == Tag.sequence then Data.list <$> items.mapM part
      else Data.list <$> items.mapM fun item => do
        let (key, value) ← graph.soleEntry item
        return .pair (← part key) (← part value)
    | .mapping .. => do
      if path.contains number then return .enclosing false
      let entries ← graph.allEntries number
      let mapping ← entries.foldlM (fun (mapping : Mapping) entry => do
        return mapping.put (← graph.keyOf entry.1) (← part entry.2)) []
      return if tag == Tag.set then .set (mapping.map Prod.fst) else .mapping mapping
where
  /-- The number of times that a setting is looked up. -/
  lookUps : Nat := 2

/-- The value of a graph. -/
def value (graph : Graph) : Except YamlFault Data := do
  graph.check
  graph.valueOf (graph.nodes.size + 3) [] 0 graph.root

end Values

end Graph

/-- The value of a text; a text without a document stands for nothing. -/
def read (text : String) : Except YamlFault Data := do
  match ← Node.graphOf text with
  | some graph => graph.value
  | none => return .scalar .null

end Yaml

end IfChains
