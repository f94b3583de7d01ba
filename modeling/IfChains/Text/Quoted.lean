/-
**Text in quotes.**

A quoted text stands between single quotes, or between double quotes when it holds a single quote
and no double one. A backslash, the quote in use and every code point that cannot be shown are
escaped; tab, line feed and carriage return have escapes of their own, and the others are written
with two, four or eight hexadecimal digits.
-/

import IfChains.Text.CodePoints
import IfChains.Text.Printable

namespace IfChains

namespace CodePoints

/-- A number in hexadecimal, filled up with zeros to a width. -/
def hexadecimal (width value : Nat) : List Char :=
  let digits := Nat.toDigits 16 value
  List.replicate (width - digits.length) '0' ++ digits

/-- The character a code point stands for. -/
def toChar (point : Nat) : Char :=
  Char.ofNat point

/-- A code point as an escape. -/
def escape (point : Nat) : List Char :=
  if point = 92 then ['\\', '\\']
  else if point = 9 then ['\\', 't']
  else if point = 10 then ['\\', 'n']
  else if point = 13 then ['\\', 'r']
  else if point < 0x100 then '\\' :: 'x' :: hexadecimal 2 point
  else if point < 0x10000 then '\\' :: 'u' :: hexadecimal 4 point
  else '\\' :: 'U' :: hexadecimal 8 point

/-- A code point between a pair of quotes. -/
def escapePoint (quote : Nat) (point : Nat) : List Char :=
  if point = quote then ['\\', toChar point]
  else if point = 92 || !isPrintable point then escape point
  else [toChar point]

/-- The quote that needs the fewest escapes. -/
def quoteFor (points : List Nat) : Nat :=
  if points.contains 39 && !points.contains 34 then 34 else 39

/-- A text in quotes. -/
def quoted (points : CodePoints) : List Char :=
  let quote := quoteFor points
  toChar quote :: points.flatMap (escapePoint quote) ++ [toChar quote]

/-- A byte between a pair of quotes. -/
def escapeByte (quote : Nat) (byte : Nat) : List Char :=
  if byte = quote then ['\\', toChar byte]
  else if byte = 92 || byte < 32 || 127 ≤ byte then escape byte
  else [toChar byte]

/-- A sequence of bytes in quotes, marked with the letter `b`. -/
def quotedBytes (bytes : List Nat) : List Char :=
  let quote := quoteFor bytes
  'b' :: toChar quote :: bytes.flatMap (escapeByte quote) ++ [toChar quote]

end CodePoints

/-- A text of characters in quotes. -/
def quotedText (text : String) : String :=
  String.ofList (CodePoints.quoted (CodePoints.ofString text))

end IfChains
