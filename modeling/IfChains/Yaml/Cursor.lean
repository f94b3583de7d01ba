/-
**A place in a YAML text.**

A cursor has the characters that are left and counts those before it, the lines, and the columns of
the present line. Behind the last character stands a character of code zero, which no text holds.
-/

import IfChains.Yaml.Fault

namespace IfChains

namespace Yaml

section Classes

/-- The character behind the last one. -/
def past : Char := '\x00'

/-- Whether a character breaks a line. -/
def isBreak (char : Char) : Bool :=
  ['\r', '\n', '\u0085', '\u2028', '\u2029'].contains char

/-- Whether a line ends here. -/
def endsLine (char : Char) : Bool :=
  char == past || isBreak char

/-- Whether a line or a word ends here, where a tab belongs to a word. -/
def endsWord (char : Char) : Bool :=
  char == ' ' || endsLine char

/-- Whether a line or a word ends here. -/
def isBlank (char : Char) : Bool :=
  char == '\t' || endsWord char

/-- Whether a character can stand in a name. -/
def isNameChar (char : Char) : Bool :=
  char.isAlphanum || char == '-' || char == '_'

/-- Whether a character is allowed in a text. -/
def isAllowed (char : Char) : Bool :=
  let code := char.toNat
  code == 9 || code == 10 || code == 13 || code == 0x85 || 0x20 ≤ code && code ≤ 0x7E ||
    0xA0 ≤ code && code ≤ 0xFFFD || 0x10000 ≤ code

end Classes

/-- A place in a text. -/
structure Cursor where
  rest : List Char
  index : Nat := 0
  line : Nat := 0
  column : Nat := 0
deriving DecidableEq, Repr

namespace Cursor

/-- The character some places ahead. -/
def peek (cursor : Cursor) (ahead : Nat) : Char :=
  cursor.rest.getD ahead past

/-- The place behind the next character. -/
def next (cursor : Cursor) : Cursor :=
  match cursor.rest with
  | [] => cursor
  | char :: rest =>
    let moved := { cursor with rest := rest, index := cursor.index + 1 }
    if isBreak char && !(char == '\r' && rest.head? == some '\n') then
      { moved with line := cursor.line + 1, column := 0 }
    else if char == '\uFEFF' then moved
    else { moved with column := cursor.column + 1 }

/-- The place behind some characters. -/
def advance : (count : Nat) → Cursor → Cursor
  | 0, cursor => cursor
  | count + 1, cursor => advance count cursor.next

end Cursor

/-- A step of reading a text. -/
abbrev Scan := StateT Cursor (Except YamlFault)

namespace Scan

/-- The character some places ahead. -/
def peek (ahead : Nat) : Scan Char := do
  return (← get).peek ahead

/-- Goes on by some characters. -/
def skip (count : Nat) : Scan Unit :=
  modify (Cursor.advance count)

/-- Some characters from here on. -/
def ahead (count : Nat) : Scan (List Char) := do
  return (← get).rest.take count

/-- Reads the longest run of characters that pass a test. -/
def takeWhile (test : Char → Bool) : Scan (List Char) := do
  let run := (← get).rest.takeWhile test
  skip run.length
  return run

/-- Passes over characters that pass a test. -/
def skipWhile (test : Char → Bool) : Scan Unit := do
  let _ ← takeWhile test

/-- Fails unless a test is passed. -/
def require (holds : Bool) : Scan Unit :=
  if holds then return else throw .token

/-- Reads a line break, if there is one: a line feed, or a separator that is kept. -/
def lineBreak : Scan (List Char) := do
  let char ← peek 0
  if char == '\r' && (← peek 1) == '\n' then
    skip 2
    return ['\n']
  else if char == '\u2028' || char == '\u2029' then
    skip 1
    return [char]
  else if isBreak char then
    skip 1
    return ['\n']
  else return []

/-- Passes over the rest of a line that holds nothing but a comment. -/
def emptyLine : Scan Unit := do
  skipWhile (· == ' ')
  if (← peek 0) == '#' then skipWhile fun char => !endsLine char
  require (endsLine (← peek 0))
  let _ ← lineBreak

/-- Whether a line that separates documents begins here. -/
def atSeparator : Scan Bool := do
  let mark ← ahead 3
  return (mark == ['-', '-', '-'] || mark == ['.', '.', '.']) && isBlank (← peek 3)

/-- Goes on with a state as long as a step says so; each step but the last reads something. -/
def repeatWithin {σ : Type} (step : σ → Scan (σ × Bool)) : (steps : Nat) → σ → Scan σ
  | 0, state => return state
  | steps + 1, state => do
    let (state, more) ← step state
    if more then repeatWithin step steps state else return state

/-- Goes on with a state as long as a step says so. -/
def repeated {σ : Type} (step : σ → Scan (σ × Bool)) (start : σ) : Scan σ := do
  repeatWithin step ((← get).rest.length + 1) start

end Scan

end Yaml

end IfChains
