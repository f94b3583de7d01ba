/-
**Nodes made from the tokens of a YAML text.**

A node is a scalar, a sequence, or a mapping, and has a tag. The nodes of a text are numbered, and a
collection holds the numbers of its parts. A name that is given to a node stands for it from there
on, also within the node, so that a collection can hold itself. The node of a scalar without a tag
has the tag that its text calls for.
-/

import IfChains.Yaml.Lexer
import IfChains.Yaml.Resolution

namespace IfChains

namespace Yaml

/-- The number of a node. -/
abbrev NodeNumber := Nat

/-- A node with its tag. -/
inductive Node
  | scalar (tag : String) (text : CodePoints)
  | sequence (tag : String) (items : List NodeNumber)
  | mapping (tag : String) (entries : List (NodeNumber × NodeNumber))
deriving Repr

instance : Inhabited Node := ⟨.scalar Tag.null []⟩

/-- The nodes of a text, and the number of the one that holds the others. -/
structure Graph where
  nodes : Array Node
  root : NodeNumber
deriving Repr

namespace Node

/-- What is known after some nodes: the handles of tags, the nodes, of which those that are not
complete yet have no parts, and the numbers of the named ones. -/
structure Reader where
  lexer : Lexer
  handles : List (String × String) := []
  nodes : Array Node := #[]
  anchors : List (String × NodeNumber) := []

/-- A step of making nodes. -/
abbrev Read := StateT Reader (Except YamlFault)

section Basics

/-- The next token. -/
def next : Read Token := do
  let reader ← get
  match Lex.next.run reader.lexer with
  | .ok (token, lexer) =>
    set { reader with lexer := lexer }
    return token
  | .error fault => throw fault

/-- Takes the next token. -/
def take : Read Unit := do
  let reader ← get
  match Lex.take.run reader.lexer with
  | .ok (_, lexer) => set { reader with lexer := lexer }
  | .error fault => throw fault

/-- Whether the next token is one of some. -/
def isNext (tokens : List Token) : Read Bool := do
  return tokens.contains (← next)

/-- Takes the next token if it is a given one. -/
def accept (token : Token) : Read Bool := do
  if (← next) == token then
    take
    return true
  else return false

/-- Takes the next token, which has to be a given one. -/
def expect (token : Token) : Read Unit := do
  if !(← accept token) then throw .arrangement

/-- Gives a node a number. -/
def add (node : Node) : Read NodeNumber :=
  modifyGet fun reader => (reader.nodes.size, { reader with nodes := reader.nodes.push node })

/-- Completes a node. -/
def complete (number : NodeNumber) (node : Node) : Read NodeNumber := do
  modify fun reader => { reader with nodes := reader.nodes.setIfInBounds number node }
  return number

/-- The node that stands where there is none. -/
def absent : Read NodeNumber :=
  add (.scalar Tag.null [])

end Basics

section Properties

/-- The tag and the name in front of a node. -/
structure Properties where
  anchor : Option String := none
  tag : Option (Option String × String) := none

/-- Takes a name in front of a node. -/
def anchor? : Read (Option String) := do
  match ← next with
  | .anchor name =>
    take
    return some name
  | _ => return none

/-- Takes a tag in front of a node. -/
def tag? : Read (Option (Option String × String)) := do
  match ← next with
  | .tag handle suffix =>
    take
    return some (handle, suffix)
  | _ => return none

/-- Takes the tag and the name in front of a node, in either order. -/
def properties : Read Properties := do
  match ← anchor? with
  | some name => return ⟨some name, ← tag?⟩
  | none =>
    match ← tag? with
    | some tag => return ⟨← anchor?, some tag⟩
    | none => return {}

/-- The tag that a handle and a suffix make up. -/
def fullTag : Option (Option String × String) → Read (Option String)
  | none => return none
  | some (none, suffix) => return some suffix
  | some (some handle, suffix) => do
    match (← get).handles.lookup handle with
    | some start => return some (start ++ suffix)
    | none => throw .arrangement

/-- Begins a node that may have a name, unless the name is taken. -/
def begin (name : Option String) (node : Node) : Read NodeNumber := do
  match name with
  | none => add node
  | some name =>
    if ((← get).anchors.lookup name).isSome then throw .reference
    let number ← add node
    modify fun reader => { reader with anchors := (name, number) :: reader.anchors }
    return number

/-- The node that a name stands for. -/
def named (name : String) : Read NodeNumber := do
  match (← get).anchors.lookup name with
  | some number => return number
  | none => throw .reference

/-- The tag of a collection. -/
def collectionTag (default : String) : Option String → String
  | none => default
  | some tag => if tag == "!" then default else tag

/-- The tag of a scalar: what it is tagged with, or what its text calls for if it is plain. -/
def scalarTag (tag : Option String) (text : CodePoints) (plain : Bool) : String :=
  match tag with
  | none => if plain then Tag.ofPlain (CodePoints.toText text) else Tag.text
  | some "!" => Tag.ofPlain (CodePoints.toText text)
  | some tag => tag

end Properties

/-- Where a node stands, which decides which collections can be there. -/
inductive Setting
  | flow | block | blockOrItems
deriving DecidableEq, Repr

mutual

/-- Reads a node, with a bound on the number of steps. -/
def readNode (setting : Setting) : (steps : Nat) → Read NodeNumber
  | 0 => throw .arrangement
  | steps + 1 => do
    if let .reference name := ← next then
      take
      return ← named name
    let properties ← properties
    let tag ← fullTag properties.tag
    let name := properties.anchor
    let sequence := Node.sequence (collectionTag Tag.sequence tag)
    let mapping := Node.mapping (collectionTag Tag.mapping tag)
    match ← next, setting with
    | .blockItem, .blockOrItems =>
      let number ← begin name (sequence [])
      complete number (sequence (← readLooseItems steps))
    | .scalar text plain, _ =>
      take
      begin name (.scalar (scalarTag tag text plain) text)
    | .flowSequenceStart, _ =>
      let number ← begin name (sequence [])
      take
      complete number (sequence (← readFlowItems true steps))
    | .flowMappingStart, _ =>
      let number ← begin name (mapping [])
      take
      complete number (mapping (← readFlowEntries true steps))
    | .blockSequenceStart, .block | .blockSequenceStart, .blockOrItems =>
      let number ← begin name (sequence [])
      take
      complete number (sequence (← readItems steps))
    | .blockMappingStart, .block | .blockMappingStart, .blockOrItems =>
      let number ← begin name (mapping [])
      take
      complete number (mapping (← readEntries steps))
    | _, _ =>
      if properties.anchor.isNone && properties.tag.isNone then throw .arrangement
      begin name (.scalar (scalarTag tag [] tag.isNone) [])

/-- Reads a node, unless one of some tokens is next. -/
def readUnless (ends : List Token) (setting : Setting) : (steps : Nat) → Read NodeNumber
  | 0 => throw .arrangement
  | steps + 1 => do
    if ← isNext ends then absent else readNode setting steps

/-- Reads the items of a block sequence. -/
def readItems : (steps : Nat) → Read (List NodeNumber)
  | 0 => throw .arrangement
  | steps + 1 => do
    if ← accept .blockItem then
      let item ← readUnless [.blockItem, .blockEnd] .block steps
      return item :: (← readItems steps)
    else
      expect .blockEnd
      return []

/-- Reads the items of a block sequence that is not indented deeper than the key before it. -/
def readLooseItems : (steps : Nat) → Read (List NodeNumber)
  | 0 => throw .arrangement
  | steps + 1 => do
    if ← accept .blockItem then
      let item ← readUnless [.blockItem, .key, .value, .blockEnd] .block steps
      return item :: (← readLooseItems steps)
    else return []

/-- Reads the entries of a block mapping. -/
def readEntries : (steps : Nat) → Read (List (NodeNumber × NodeNumber))
  | 0 => throw .arrangement
  | steps + 1 => do
    let ends := [.key, .value, .blockEnd]
    if ← accept .key then
      let key ← readUnless ends .blockOrItems steps
      let value ←
        if ← accept .value then readUnless ends .blockOrItems steps else absent
      return (key, value) :: (← readEntries steps)
    else
      expect .blockEnd
      return []

/-- Reads the items of a flow sequence; an entry of a mapping can stand for the mapping. -/
def readFlowItems (first : Bool) : (steps : Nat) → Read (List NodeNumber)
  | 0 => throw .arrangement
  | steps + 1 => do
    if ← accept .flowSequenceEnd then return []
    if !first then expect .flowItem
    if ← accept .key then
      let key ← readUnless [.value, .flowItem, .flowSequenceEnd] .flow steps
      let value ←
        if ← accept .value then readUnless [.flowItem, .flowSequenceEnd] .flow steps
        else absent
      let entry ← add (.mapping Tag.mapping [(key, value)])
      return entry :: (← readFlowItems false steps)
    else if ← accept .flowSequenceEnd then return []
    else
      let item ← readNode .flow steps
      return item :: (← readFlowItems false steps)

/-- Reads the entries of a flow mapping; a value can be left out. -/
def readFlowEntries (first : Bool) : (steps : Nat) → Read (List (NodeNumber × NodeNumber))
  | 0 => throw .arrangement
  | steps + 1 => do
    if ← accept .flowMappingEnd then return []
    if !first then expect .flowItem
    if ← accept .key then
      let key ← readUnless [.value, .flowItem, .flowMappingEnd] .flow steps
      let value ←
        if ← accept .value then readUnless [.flowItem, .flowMappingEnd] .flow steps
        else absent
      return (key, value) :: (← readFlowEntries false steps)
    else if ← accept .flowMappingEnd then return []
    else
      let key ← readNode .flow steps
      let value ← absent
      return (key, value) :: (← readFlowEntries false steps)

end

section Documents

/-- The handles that need no directive. -/
def defaultHandles : List (String × String) :=
  [("!", "!"), ("!!", Tag.start)]

/-- Reads the directives in front of a document, with a bound on their number. -/
def readDirectives (versioned : Bool) : (steps : Nat) → Read Unit
  | 0 => return
  | steps + 1 => do
    match ← next with
    | .directive (.version major _) =>
      take
      if versioned || major != 1 then throw .arrangement
      readDirectives true steps
    | .directive (.handle name start) =>
      take
      let reader ← get
      if (reader.handles.lookup name).isSome then throw .arrangement
      set { reader with handles := (name, start) :: reader.handles }
      readDirectives versioned steps
    | .directive .other =>
      take
      readDirectives versioned steps
    | _ => return

/-- Passes over ends of documents, with a bound on their number. -/
def skipEnds : (steps : Nat) → Read Unit
  | 0 => return
  | steps + 1 => do
    if ← accept .documentEnd then skipEnds steps

/-- Reads what stands in front of a document; tells whether there is one. -/
def beginDocument (steps : Nat) : Read Bool := do
  skipEnds steps
  if ← isNext [.streamEnd] then return false
  modify fun reader => { reader with handles := [] }
  readDirectives false steps
  modify fun reader => { reader with handles := reader.handles ++ defaultHandles }
  expect .documentStart
  return true

/-- Reads the content of a document. -/
def readContent (steps : Nat) : Read NodeNumber := do
  match ← next with
  | .directive _ | .documentStart | .documentEnd | .streamEnd => absent
  | _ => readNode .block steps

/-- Reads the first document, if there is one; its beginning need not be marked. -/
def readDocument (steps : Nat) : Read (Option NodeNumber) := do
  match ← next with
  | .directive _ | .documentStart | .streamEnd =>
    if ← beginDocument steps then return some (← readContent steps) else return none
  | _ =>
    modify fun reader => { reader with handles := defaultHandles }
    return some (← readNode .block steps)

/-- Reads the only document of a text, if there is one. -/
def readOnly (steps : Nat) : Read (Option Graph) := do
  let node ← readDocument steps
  if node.isSome then
    let _ ← accept .documentEnd
    if ← beginDocument steps then throw .reference
  let nodes := (← get).nodes
  return node.map fun root => ⟨nodes, root⟩

/-- The nodes of the only document of a text; nothing if there is no document. -/
def graphOf (text : String) : Except YamlFault (Option Graph) :=
  let chars := text.toList
  if chars.all isAllowed then
    (readOnly (8 * chars.length + 16)).run' { lexer := { cursor := { rest := chars } } }
  else .error .character

end Documents

end Node

end Yaml

end IfChains
