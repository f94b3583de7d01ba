/-
**The text of a scalar.**

A plain scalar ends before a comment, a colon with a blank behind it, and in a flow collection
before its marks. A quoted scalar ends with its quote. In both, a single line break is a space and
of several line breaks the first one does not count. A block scalar is made up of the lines that are
indented deeper than what it belongs to; it is kept as it is or folded like the others.
-/

import IfChains.Yaml.Cursor

namespace IfChains

namespace Yaml

open Scan

/-- The text of a line break between two words and of the breaks behind it. -/
def foldBreaks (first breaks : List Char) : List Char :=
  if first != ['\n'] then first ++ breaks else if breaks.isEmpty then [' '] else breaks

/-- The code points of some characters. -/
def pointsOf (chars : List Char) : CodePoints :=
  chars.map Char.toNat

section Plain

/-- Whether a plain scalar ends before a character, given the one behind it. -/
def endsPlain (inFlow : Bool) (char next : Char) : Bool :=
  isBlank char ||
    char == ':' && (isBlank next || inFlow && [',', '[', ']', '\x7b', '\x7d'].contains next) ||
    inFlow && [',', '?', '[', ']', '\x7b', '\x7d'].contains char

/-- The longest beginning of a text that a plain scalar can hold without a space. -/
def plainWord (inFlow : Bool) : List Char → List Char
  | [] => []
  | char :: rest =>
    if endsPlain inFlow char (rest.headD past) then [] else char :: plainWord inFlow rest

/-- Reads the line breaks behind a first one, and spaces before and after them. No text tells that a
line separates documents. -/
def plainBreaks : Scan (Option (List Char)) := do
  if ← atSeparator then return none
  repeated (fun breaks => do
    match breaks with
    | none => return (none, false)
    | some found =>
      let char ← peek 0
      if char == ' ' then
        skip 1
        return (some found, true)
      else if isBreak char then
        let more := found ++ (← lineBreak)
        if ← atSeparator then return (none, false) else return (some more, true)
      else return (some found, false)) (some [])

/-- Reads what stands between two words of a plain scalar; tells whether that breaks a line. -/
def plainSpaces : Scan (List Char × Bool) := do
  let blanks ← takeWhile (· == ' ')
  if isBreak (← peek 0) then
    let first ← lineBreak
    match ← plainBreaks with
    | none => return ([], true)
    | some breaks => return (foldBreaks first breaks, true)
  else return (blanks, false)

/-- A plain scalar that is being read: its text, the spaces behind it, and whether they break a
line. -/
structure PlainText where
  text : List Char := []
  spaces : List Char := []
  broken : Bool := false

/-- Reads a plain scalar, whose lines have to be indented by some columns; tells whether a line
break is behind it. -/
def plainScalar (inFlow : Bool) (indent : Int) : Scan (CodePoints × Bool) := do
  let result ← repeated (fun (plain : PlainText) => do
    if (← peek 0) == '#' then return (plain, false)
    let word := plainWord inFlow (← get).rest
    if word.isEmpty then return (plain, false)
    skip word.length
    let (spaces, broken) ← plainSpaces
    let next : PlainText := ⟨plain.text ++ plain.spaces ++ word, spaces, broken⟩
    let ends := spaces.isEmpty || (← peek 0) == '#' || !inFlow && (← get).column < indent
    return (next, !ends)) {}
  return (pointsOf result.text, result.broken)

end Plain

section Quoted

/-- The character that an escape stands for. -/
def escaped : Char → Option Char
  | '0' => some '\x00'
  | 'a' => some '\x07'
  | 'b' => some '\x08'
  | 't' | '\t' => some '\t'
  | 'n' => some '\n'
  | 'v' => some '\x0b'
  | 'f' => some '\x0c'
  | 'r' => some '\r'
  | 'e' => some '\x1b'
  | ' ' => some ' '
  | '"' => some '"'
  | '\\' => some '\\'
  | '/' => some '/'
  | 'N' => some '\u0085'
  | '_' => some '\u00a0'
  | 'L' => some '\u2028'
  | 'P' => some '\u2029'
  | _ => none

/-- The number of digits of a numbered escape. -/
def escapeWidth : Char → Option Nat
  | 'x' => some 2
  | 'u' => some 4
  | 'U' => some 8
  | _ => none

/-- The value of a hexadecimal digit. -/
def digitValue? (char : Char) : Option Nat :=
  if char.isDigit then some (char.toNat - 48)
  else if 'a' ≤ char && char ≤ 'f' then some (char.toNat - 87)
  else if 'A' ≤ char && char ≤ 'F' then some (char.toNat - 55)
  else none

/-- Reads a number of hexadecimal digits. -/
def hexadecimal (count : Nat) : Scan Nat := do
  let digits ← ahead count
  match digits.mapM digitValue? with
  | some values =>
    require (values.length == count)
    skip count
    return values.foldl (fun value digit => 16 * value + digit) 0
  | none => throw .token

/-- Reads the line breaks in a quoted scalar, and blanks before and after them. -/
def quotedBreaks : Scan (List Char) :=
  repeated (fun breaks => do
    require !(← atSeparator)
    skipWhile fun char => char == ' ' || char == '\t'
    if isBreak (← peek 0) then return (breaks ++ (← lineBreak), true)
    else return (breaks, false)) []

/-- Reads blanks and line breaks in a quoted scalar. -/
def quotedSpaces : Scan (List Char) := do
  let blanks ← takeWhile fun char => char == ' ' || char == '\t'
  let char ← peek 0
  require (char != past)
  if isBreak char then
    let first ← lineBreak
    return foldBreaks first (← quotedBreaks)
  else return blanks

/-- Reads an escape behind its backslash; a number can be that of a half of a surrogate pair. -/
def escape : Scan CodePoints := do
  let char ← peek 0
  match escaped char, escapeWidth char with
  | some meant, _ =>
    skip 1
    return [meant.toNat]
  | none, some width =>
    skip 1
    let point ← hexadecimal width
    if 0x10FFFF < point then throw (.escape (0x7FFFFFFF < point))
    return [point]
  | none, none =>
    require (isBreak char)
    let _ ← lineBreak
    return pointsOf (← quotedBreaks)

/-- Reads the part of a quoted scalar up to a blank or the end. -/
def quotedWord (double : Bool) : Scan CodePoints :=
  repeated (fun text => do
    let run ← takeWhile fun char =>
      !(isBlank char || char == '\'' || char == '"' || char == '\\')
    let text := text ++ pointsOf run
    let char ← peek 0
    if !double && char == '\'' && (← peek 1) == '\'' then
      skip 2
      return (text ++ pointsOf ['\''], true)
    else if double && char == '\'' || !double && (char == '"' || char == '\\') then
      skip 1
      return (text ++ pointsOf [char], true)
    else if double && char == '\\' then
      skip 1
      return (text ++ (← escape), true)
    else return (text, false)) []

/-- Reads a quoted scalar. -/
def quotedScalar (double : Bool) : Scan CodePoints := do
  let quote ← peek 0
  skip 1
  let start ← quotedWord double
  let text ← repeated (fun text => do
    if (← peek 0) == quote then return (text, false)
    let spaces ← quotedSpaces
    return (text ++ pointsOf spaces ++ (← quotedWord double), true)) start
  skip 1
  return text

end Quoted

section Block

/-- What becomes of the line breaks at the end of a block scalar. -/
inductive Chomping
  | strip | clip | keep
deriving DecidableEq, Repr

/-- Reads the sign that says what becomes of the last line breaks. -/
def chomping? : Scan (Option Chomping) := do
  match ← peek 0 with
  | '+' =>
    skip 1
    return some .keep
  | '-' =>
    skip 1
    return some .strip
  | _ => return none

/-- Reads the digit that says how deep a block scalar is indented. -/
def increment? : Scan (Option Nat) := do
  let char ← peek 0
  if char.isDigit then
    require (char != '0')
    skip 1
    return digitValue? char
  else return none

/-- Reads the marks behind the sign of a block scalar, in either order. -/
def blockMarks : Scan (Chomping × Option Nat) := do
  let marks ← match ← chomping? with
    | some chomping => pure (chomping, ← increment?)
    | none =>
      match ← increment? with
      | some increment => pure ((← chomping?).getD .clip, some increment)
      | none => pure (.clip, none)
  require (endsWord (← peek 0))
  return marks

/-- Reads the empty lines before a block scalar; tells how deep its first line is indented. -/
def blockIndentation : Scan (List Char × Nat) :=
  repeated (fun (breaks, deepest) => do
    let char ← peek 0
    if char == ' ' then
      skip 1
      return ((breaks, max deepest (← get).column), true)
    else if isBreak char then return ((breaks ++ (← lineBreak), deepest), true)
    else return ((breaks, deepest), false)) ([], 0)

/-- Passes over the indentation of a line. -/
def blockIndent (indent : Nat) : Scan Unit := do
  let column := (← get).column
  let spaces := ((← get).rest.take (indent - column)).takeWhile (· == ' ')
  skip spaces.length

/-- Reads the empty lines in a block scalar. -/
def blockBreaks (indent : Nat) : Scan (List Char) := do
  blockIndent indent
  repeated (fun breaks => do
    if isBreak (← peek 0) then
      let more := breaks ++ (← lineBreak)
      blockIndent indent
      return (more, true)
    else return (breaks, false)) []

/-- A block scalar that is being read: its text, the last line break, and the empty lines behind
it. -/
structure BlockText where
  text : List Char := []
  lineBreak : List Char := []
  breaks : List Char := []

/-- Whether a line of a block scalar begins here. -/
def atBlockLine (indent : Nat) : Scan Bool := do
  return (← get).column == indent && (← peek 0) != past

/-- Whether the next character is a space or a tab. -/
def atSpace : Scan Bool := do
  let char ← peek 0
  return char == ' ' || char == '\t'

/-- Reads a block scalar that belongs to something with a given indentation. -/
def blockScalar (folded : Bool) (outer : Int) : Scan CodePoints := do
  skip 1
  let (chomping, increment) ← blockMarks
  emptyLine
  let least := (max (outer + 1) 1).toNat
  let (indent, breaks) ← match increment with
    | some increment =>
      let indent := least + increment - 1
      pure (indent, ← blockBreaks indent)
    | none =>
      let (breaks, deepest) ← blockIndentation
      pure (max least deepest, breaks)
  let result ← repeated (fun (block : BlockText) => do
    if !(← atBlockLine indent) then return (block, false)
    let spaced ← atSpace
    let line ← takeWhile fun char => !endsLine char
    let text := block.text ++ block.breaks ++ line
    let first ← lineBreak
    let breaks ← blockBreaks indent
    if !(← atBlockLine indent) then return (⟨text, first, breaks⟩, false)
    if folded && first == ['\n'] && !spaced && !(← atSpace) then
      return (⟨if breaks.isEmpty then text ++ [' '] else text, first, breaks⟩, true)
    else return (⟨text ++ first, first, breaks⟩, true)) ⟨[], [], breaks⟩
  let ending := match chomping with
    | .strip => []
    | .clip => result.lineBreak
    | .keep => result.lineBreak ++ result.breaks
  return pointsOf (result.text ++ ending)

end Block

end Yaml

end IfChains
