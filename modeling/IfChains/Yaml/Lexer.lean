/-
**Tokens made from a YAML text.**

A lexer reads one token after the other as they are asked for. Whether something is a key shows only
at the colon behind it, so every place where a key may begin is remembered, and tokens wait in a
queue until no key can begin before them. A key has to end in the line in which it begins, and
within some characters; in a block, what begins where the block's lines begin has to be a key.
-/

import IfChains.Text.Utf8
import IfChains.Yaml.ScalarText
import IfChains.Yaml.Token

namespace IfChains

namespace Yaml

/-- A place where a key may begin: the number of its first token, whether it has to be a key, and
where it is. -/
structure KeyPlace where
  number : Nat
  required : Bool
  index : Nat
  line : Nat
  column : Nat
deriving DecidableEq, Repr

/-- What is known after some tokens. -/
structure Lexer where
  cursor : Cursor
  /-- The tokens that are not taken yet. -/
  queue : List Token := []
  /-- The number of tokens taken. -/
  taken : Nat := 0
  finished : Bool := false
  /-- The number of flow collections that are open. -/
  flowLevel : Int := 0
  /-- The indentation of the innermost block, and of those around it. -/
  indent : Int := -1
  indents : List Int := []
  mayBeginKey : Bool := true
  /-- The places where a key may begin, by the flow level. -/
  keys : List (Int × KeyPlace) := []
deriving Repr

/-- A step of making tokens. -/
abbrev Lex := StateT Lexer (Except YamlFault)

namespace Lex

section Basics

/-- Reads something from the text. -/
def scan {α : Type} (step : Scan α) : Lex α := do
  let lexer ← get
  match step.run lexer.cursor with
  | .ok (result, cursor) =>
    set { lexer with cursor := cursor }
    return result
  | .error fault => throw fault

/-- The character some places ahead. -/
def peek (ahead : Nat) : Lex Char := do
  return (← get).cursor.peek ahead

/-- The present column. -/
def column : Lex Int := do
  return (← get).cursor.column

/-- Whether no flow collection is open. -/
def inBlock : Lex Bool := do
  return (← get).flowLevel == 0

/-- Fails unless a test is passed. -/
def require (holds : Bool) : Lex Unit :=
  if holds then return else throw .token

/-- Adds a token to the queue. -/
def push (token : Token) : Lex Unit :=
  modify fun lexer => { lexer with queue := lexer.queue ++ [token] }

/-- Puts a token into the queue in front of a token of a given number. -/
def pushBefore (number : Nat) (token : Token) : Lex Unit :=
  modify fun lexer =>
    let place := number - lexer.taken
    { lexer with queue := lexer.queue.take place ++ token :: lexer.queue.drop place }

/-- Says whether a key may begin at the next token. -/
def allowKey (allowed : Bool) : Lex Unit :=
  modify fun lexer => { lexer with mayBeginKey := allowed }

end Basics

section Keys

/-- Forgets the place of a key at the present flow level; fails if it has to be a key. -/
def dropKey : Lex Unit := do
  let lexer ← get
  match lexer.keys.lookup lexer.flowLevel with
  | some place => require (!place.required)
  | none => return
  set { lexer with keys := lexer.keys.filter (·.1 != lexer.flowLevel) }

/-- Remembers that a key may begin here. -/
def noteKey : Lex Unit := do
  let lexer ← get
  if lexer.mayBeginKey then
    dropKey
    let cursor := lexer.cursor
    let required := lexer.flowLevel == 0 && lexer.indent == cursor.column
    let place : KeyPlace := ⟨lexer.taken + lexer.queue.length, required, cursor.index, cursor.line,
      cursor.column⟩
    modify fun lexer => { lexer with keys := (lexer.flowLevel, place) :: lexer.keys }

/-- Whether a key that begins at a place cannot end here any more. -/
def isStale (cursor : Cursor) (place : KeyPlace) : Bool :=
  place.line != cursor.line || 1024 < cursor.index - place.index

/-- Forgets the places of keys that cannot end here; fails if one of them has to be a key. -/
def dropStaleKeys : Lex Unit := do
  let lexer ← get
  let stale := fun (entry : Int × KeyPlace) => isStale lexer.cursor entry.2
  require (!lexer.keys.any fun entry => stale entry && entry.2.required)
  set { lexer with keys := lexer.keys.filter fun entry => !stale entry }

end Keys

section Indentation

/-- Closes the blocks that are indented deeper than a column. -/
def closeBlocks (column : Int) : Lex Unit :=
  modify fun lexer =>
    if lexer.flowLevel != 0 then lexer
    else
      let all := lexer.indent :: lexer.indents
      let kept := all.dropWhile fun indent => column < indent
      { lexer with
        indent := kept.headD (-1)
        indents := kept.drop 1
        queue := lexer.queue ++ List.replicate (all.length - kept.length) .blockEnd }

/-- Opens a block at a column, unless one is open there. -/
def openBlock (column : Int) : Lex Bool := do
  let lexer ← get
  if lexer.indent < column then
    set { lexer with indent := column, indents := lexer.indent :: lexer.indents }
    return true
  else return false

end Indentation

section Markers

/-- Ends the blocks that are open, and the key that may have begun. -/
def endBlocks : Lex Unit := do
  closeBlocks (-1)
  dropKey
  allowKey false

/-- The end of the text. -/
def finish : Lex Unit := do
  endBlocks
  push .streamEnd
  modify fun lexer => { lexer with keys := [], finished := true }

/-- A line that begins or ends a document. -/
def separator (token : Token) : Lex Unit := do
  endBlocks
  scan (Scan.skip 3)
  push token

/-- The beginning of a flow collection. -/
def openFlow (token : Token) : Lex Unit := do
  noteKey
  modify fun lexer => { lexer with flowLevel := lexer.flowLevel + 1 }
  allowKey true
  scan (Scan.skip 1)
  push token

/-- The end of a flow collection. -/
def closeFlow (token : Token) : Lex Unit := do
  dropKey
  modify fun lexer => { lexer with flowLevel := lexer.flowLevel - 1 }
  allowKey false
  scan (Scan.skip 1)
  push token

/-- A mark between the items of a flow collection. -/
def flowItem : Lex Unit := do
  allowKey true
  dropKey
  scan (Scan.skip 1)
  push .flowItem

/-- Opens a block where a mark stands that only a block has, if no flow collection is open. -/
def openBlockAt (start : Token) : Lex Unit := do
  if ← inBlock then
    require (← get).mayBeginKey
    if ← openBlock (← column) then push start

/-- A mark in front of an item of a block sequence. -/
def blockItem : Lex Unit := do
  openBlockAt .blockSequenceStart
  allowKey true
  dropKey
  scan (Scan.skip 1)
  push .blockItem

/-- A mark in front of a key. -/
def key : Lex Unit := do
  openBlockAt .blockMappingStart
  allowKey (← inBlock)
  dropKey
  scan (Scan.skip 1)
  push .key

/-- A mark in front of a value, which may show that there is a key before it. -/
def value : Lex Unit := do
  let lexer ← get
  match lexer.keys.lookup lexer.flowLevel with
  | some place =>
    set { lexer with keys := lexer.keys.filter (·.1 != lexer.flowLevel) }
    pushBefore place.number .key
    if ← inBlock then
      if ← openBlock place.column then pushBefore place.number .blockMappingStart
    allowKey false
  | none =>
    openBlockAt .blockMappingStart
    allowKey (← inBlock)
    dropKey
  scan (Scan.skip 1)
  push .value

end Markers

section Names

/-- Reads a name behind its mark. -/
def name : Scan String := do
  Scan.skip 1
  let letters ← Scan.takeWhile isNameChar
  Scan.require !letters.isEmpty
  let after ← Scan.peek 0
  Scan.require (isBlank after || ['?', ':', ',', ']', '\x7d', '%', '@', '\u0060'].contains after)
  return String.ofList letters

/-- Reads a byte that is written with two hexadecimal digits behind a percent sign. -/
def escapedByte : Scan UInt8 := do
  Scan.skip 1
  return UInt8.ofNat (← hexadecimal 2)

/-- Reads the text that some escaped bytes spell. -/
def escapedBytes : Scan (List Char) := do
  let bytes ← Scan.repeated (fun bytes => do
    if (← Scan.peek 0) == '%' then return (bytes ++ [← escapedByte], true)
    else return (bytes, false)) []
  match Utf8.decode bytes with
  | .ok text => return text.toList
  | .error _ => throw .token

/-- Whether a character can stand in a tag. -/
def isTagChar (char : Char) : Bool :=
  isNameChar char ||
    [';', '/', '?', ':', '@', '&', '=', '+', '$', ',', '_', '.', '!', '~', '*', '\'', '(', ')', '[',
      ']'].contains char

/-- Reads the part of a tag that is no handle. -/
def tagText : Scan String := do
  let text ← Scan.repeated (fun text => do
    let run ← Scan.takeWhile isTagChar
    let text := text ++ run
    if (← Scan.peek 0) == '%' then return (text ++ (← escapedBytes), true)
    else return (text, false)) []
  Scan.require !text.isEmpty
  return String.ofList text

/-- Reads a handle: an exclamation mark, or a name between two of them. -/
def handle : Scan String := do
  Scan.require ((← Scan.peek 0) == '!')
  Scan.skip 1
  if (← Scan.peek 0) == ' ' then return "!"
  let letters ← Scan.takeWhile isNameChar
  Scan.require ((← Scan.peek 0) == '!')
  Scan.skip 1
  return String.ofList ('!' :: letters ++ ['!'])

/-- Reads a tag. -/
def tag : Scan Token := do
  let char ← Scan.peek 1
  let result ←
    if char == '<' then
      Scan.skip 2
      let text ← tagText
      Scan.require ((← Scan.peek 0) == '>')
      Scan.skip 1
      pure (Token.tag none text)
    else if isBlank char then
      Scan.skip 1
      pure (Token.tag none "!")
    else
      let word := ((← get).rest.drop 1).takeWhile fun char => !endsWord char
      let start ←
        if word.contains '!' then handle
        else
          Scan.skip 1
          pure "!"
      pure (Token.tag (some start) (← tagText))
  Scan.require (endsWord (← Scan.peek 0))
  return result

/-- Reads a number. -/
def decimal : Scan Nat := do
  let digits ← Scan.takeWhile Char.isDigit
  Scan.require !digits.isEmpty
  return digits.foldl (fun value digit => 10 * value + (digit.toNat - 48)) 0

/-- Reads a directive. -/
def directive : Scan Directive := do
  Scan.skip 1
  let letters ← Scan.takeWhile isNameChar
  Scan.require (!letters.isEmpty && endsWord (← Scan.peek 0))
  let result ← match String.ofList letters with
    | "YAML" => do
      Scan.skipWhile (· == ' ')
      let major ← decimal
      Scan.require ((← Scan.peek 0) == '.')
      Scan.skip 1
      let minor ← decimal
      Scan.require (endsWord (← Scan.peek 0))
      pure (Directive.version major minor)
    | "TAG" => do
      Scan.skipWhile (· == ' ')
      let name ← handle
      Scan.require ((← Scan.peek 0) == ' ')
      Scan.skipWhile (· == ' ')
      let start ← tagText
      Scan.require (endsWord (← Scan.peek 0))
      pure (Directive.handle name start)
    | _ => do
      Scan.skipWhile fun char => !endsLine char
      pure Directive.other
  Scan.emptyLine
  return result

end Names

section Contents

/-- A token that may begin a key. -/
def content (token : Scan Token) : Lex Unit := do
  noteKey
  allowKey false
  push (← scan token)

/-- A plain scalar. -/
def plain : Lex Unit := do
  noteKey
  allowKey false
  let (text, broken) ← scan (plainScalar (!(← inBlock)) ((← get).indent + 1))
  if broken then allowKey true
  push (.scalar text true)

/-- A block scalar. -/
def block (folded : Bool) : Lex Unit := do
  allowKey true
  dropKey
  push (.scalar (← scan (blockScalar folded (← get).indent)) false)

end Contents

section Tokens

/-- Passes over spaces, comments and line breaks; tells whether there were line breaks. -/
def skipSpaces : Scan Bool :=
  Scan.repeated (fun broken => do
    Scan.skipWhile (· == ' ')
    if (← Scan.peek 0) == '#' then Scan.skipWhile fun char => !endsLine char
    if (← Scan.lineBreak).isEmpty then return (broken, false) else return (true, true)) false

/-- Goes on to the next token. -/
def approach : Lex Unit := do
  if (← get).cursor.index == 0 && (← peek 0) == '\uFEFF' then scan (Scan.skip 1)
  let broken ← scan skipSpaces
  if broken && (← inBlock) then allowKey true

/-- Whether a plain scalar begins with a character, given the one behind it. -/
def beginsPlain (inBlock : Bool) (char next : Char) : Bool :=
  !(isBlank char || ['-', '?', ':', ',', '[', ']', '\x7b', '\x7d', '#', '&', '*', '!', '|', '>',
      '\'', '"', '%', '@', '\u0060'].contains char) ||
    !isBlank next && (char == '-' || inBlock && (char == '?' || char == ':'))

/-- Makes the next token, or several if some have been left to be made. -/
def advance : Lex Unit := do
  approach
  dropStaleKeys
  closeBlocks (← column)
  let char ← peek 0
  let next ← peek 1
  let atLineStart := (← column) == 0
  let inBlock ← inBlock
  let apart := isBlank next
  let separates := atLineStart && (← scan Scan.atSeparator)
  if char == past then finish
  else if char == '%' && atLineStart then
    endBlocks
    push (.directive (← scan directive))
  else if char == '-' && separates then separator .documentStart
  else if char == '.' && separates then separator .documentEnd
  else if char == '[' then openFlow .flowSequenceStart
  else if char == '\x7b' then openFlow .flowMappingStart
  else if char == ']' then closeFlow .flowSequenceEnd
  else if char == '\x7d' then closeFlow .flowMappingEnd
  else if char == ',' then flowItem
  else if char == '-' && apart then blockItem
  else if char == '?' && (!inBlock || apart) then key
  else if char == ':' && (!inBlock || apart) then value
  else if char == '*' then content (Token.reference <$> name)
  else if char == '&' then content (Token.anchor <$> name)
  else if char == '!' then content tag
  else if char == '|' && inBlock then block false
  else if char == '>' && inBlock then block true
  else if char == '\'' then content ((Token.scalar · false) <$> quotedScalar false)
  else if char == '"' then content ((Token.scalar · false) <$> quotedScalar true)
  else
    require (beginsPlain inBlock char next)
    plain

/-- Whether a token has to be made before the next one can be taken. -/
def lacksToken : Lex Bool := do
  if (← get).finished then return false
  if (← get).queue.isEmpty then return true
  dropStaleKeys
  let lexer ← get
  return lexer.keys.any fun entry => entry.2.number == lexer.taken

/-- Makes tokens until the next one can be taken, with a bound on their number. -/
def fillWithin : (steps : Nat) → Lex Unit
  | 0 => return
  | steps + 1 => do
    if ← lacksToken then
      advance
      fillWithin steps

/-- The next token. -/
def next : Lex Token := do
  fillWithin ((← get).cursor.rest.length + 2)
  return (← get).queue.headD .streamEnd

/-- Takes the next token. -/
def take : Lex Unit :=
  modify fun lexer => { lexer with queue := lexer.queue.drop 1, taken := lexer.taken + 1 }

end Tokens

end Lex

end Yaml

end IfChains
