/-
**Reading the escapes of a text literal.**

A backslash gives the character behind it a meaning: a line break is dropped, digits and letters
stand for control characters, for numbered code points and for named ones, and any other character
is kept together with its backslash. Characters beyond ASCII are spelled as escapes first, so that
places in a report are those in that spelling.
-/

import IfChains.Text.CharacterName

namespace IfChains

namespace Escape

/-- The value of a hexadecimal digit. -/
def hexValue? (char : Char) : Option Nat :=
  if '0' ≤ char && char ≤ '9' then some (char.toNat - 48)
  else if 'a' ≤ char && char ≤ 'f' then some (char.toNat - 87)
  else if 'A' ≤ char && char ≤ 'F' then some (char.toNat - 55)
  else none

/-- Whether a character is an octal digit. -/
def isOctal (char : Char) : Bool :=
  '0' ≤ char && char ≤ '7'

/-- The number some octal digits spell. -/
def ofOctal (digits : List Char) : Nat :=
  digits.foldl (fun value char => 8 * value + (char.toNat - 48)) 0

/-- The number some hexadecimal digits spell. -/
def ofHexadecimal (digits : List Char) : Nat :=
  digits.foldl (fun value char => 16 * value + (hexValue? char).getD 0) 0

/-- The code point of an escape that is one letter or mark. -/
def simple : Char → Option Nat
  | '\\' => some 92
  | '\'' => some 39
  | '"' => some 34
  | 'a' => some 7
  | 'b' => some 8
  | 't' => some 9
  | 'n' => some 10
  | 'v' => some 11
  | 'f' => some 12
  | 'r' => some 13
  | _ => none

/-- The number of hexadecimal digits behind a letter. -/
def hexWidth : Char → Option Nat
  | 'x' => some 2
  | 'u' => some 4
  | 'U' => some 8
  | _ => none

/-- How an escape with too few digits is spelled in a report. -/
def shapeOf (letter : Char) : String :=
  "\\" ++ String.ofList (letter :: List.replicate ((hexWidth letter).getD 0) 'X')

/-- The report of a wrong escape between two places of a text. -/
def unicodeError (first last : Nat) (reason : String) : String :=
  "(unicode error) 'unicodeescape' codec can't decode bytes in position " ++ toString first ++
    "-" ++ toString last ++ ": " ++ reason

/-- The code point of a name between braces and the number of characters that both take up, given
the place of the backslash in front of them. -/
def named (index : Nat) : List Char → Except String (Nat × Nat)
  | '{' :: rest =>
    let name := rest.takeWhile (· != '}')
    if name.length = rest.length then malformed (index + 2 + name.length)
    else if name.isEmpty then malformed (index + 2)
    else match CharacterName.code? name with
      | some point => .ok (point, name.length + 2)
      | none =>
        .error (unicodeError index (index + 3 + name.length) "unknown Unicode character name")
  | _ => malformed (index + 1)
where
  /-- The report on a name that is not between braces. -/
  malformed {α : Type} (last : Nat) : Except String α :=
    .error (unicodeError index last "malformed \\N character escape")

/-- The code points of a text literal, read from an index on, with a bound on the characters. -/
def decodeFrom : (fuel index : Nat) → List Char → Except String CodePoints
  | 0, _, _ => .ok []
  | _, _, [] => .ok []
  | fuel + 1, index, '\\' :: letter :: rest =>
    if letter = '\n' then decodeFrom fuel (index + 2) rest
    else match simple letter with
      | some point => (decodeFrom fuel (index + 2) rest).map (point :: ·)
      | none =>
        if isOctal letter then
          let digits := ((letter :: rest).takeWhile isOctal).take 3
          (decodeFrom fuel (index + 1 + digits.length) ((letter :: rest).drop digits.length)).map
            (ofOctal digits :: ·)
        else match hexWidth letter with
          | some width =>
            let digits := (rest.takeWhile fun char => (hexValue? char).isSome).take width
            if digits.length < width then
              .error (unicodeError index (index + 1 + digits.length)
                ("truncated " ++ shapeOf letter ++ " escape"))
            else if 0x10FFFF < ofHexadecimal digits then
              .error (unicodeError index (index + 1 + width) "illegal Unicode character")
            else
              (decodeFrom fuel (index + 2 + width) (rest.drop width)).map
                (ofHexadecimal digits :: ·)
          | none =>
            if letter = 'N' then
              match named index rest with
              | .ok (point, length) =>
                (decodeFrom fuel (index + 2 + length) (rest.drop length)).map (point :: ·)
              | .error report => .error report
            else
              (decodeFrom fuel (index + 2) rest).map ([92, letter.toNat] ++ ·)
  | fuel + 1, index, char :: rest => (decodeFrom fuel (index + 1) rest).map (char.toNat :: ·)

/-- The escape of a code point with a number of digits behind a letter. -/
def numbered (letter : Char) (width point : Nat) : List Char :=
  let digits := Nat.toDigits 16 point
  '\\' :: letter :: List.replicate (width - digits.length) '0' ++ digits

/-- A text with the characters beyond ASCII spelled as escapes, and the backslashes in front of them
and at the end as well. -/
def spelledOut : List Char → List Char
  | [] => []
  | ['\\'] => numbered 'u' 4 92
  | '\\' :: char :: rest =>
    if char.toNat < 128 then '\\' :: char :: spelledOut rest
    else numbered 'u' 4 92 ++ numbered 'U' 8 char.toNat ++ spelledOut rest
  | char :: rest =>
    if char.toNat < 128 then char :: spelledOut rest
    else numbered 'U' 8 char.toNat ++ spelledOut rest

/-- The code points of a text literal; nothing is an escape if it is raw. -/
def decode (raw : Bool) (text : List Char) : Except String CodePoints :=
  if raw || !text.contains '\\' then .ok (text.map Char.toNat)
  else
    let spelling := spelledOut text
    decodeFrom spelling.length 0 spelling

/-- The bytes of a literal, read from an index on, with a bound on the characters. -/
def decodeBytesFrom : (fuel index : Nat) → List Char → Except String (List Nat)
  | 0, _, _ => .ok []
  | _, _, [] => .ok []
  | fuel + 1, index, '\\' :: letter :: rest =>
    if letter = '\n' then decodeBytesFrom fuel (index + 2) rest
    else match simple letter with
      | some point => (decodeBytesFrom fuel (index + 2) rest).map (point :: ·)
      | none =>
        if isOctal letter then
          let digits := ((letter :: rest).takeWhile isOctal).take 3
          (decodeBytesFrom fuel (index + 1 + digits.length)
            ((letter :: rest).drop digits.length)).map (ofOctal digits % 256 :: ·)
        else if letter = 'x' then
          let digits := (rest.takeWhile fun char => (hexValue? char).isSome).take 2
          if digits.length < 2 then
            .error ("(value error) invalid \\x escape at position " ++ toString index)
          else
            (decodeBytesFrom fuel (index + 4) (rest.drop 2)).map (ofHexadecimal digits :: ·)
        else (decodeBytesFrom fuel (index + 2) rest).map ([92, letter.toNat] ++ ·)
  | fuel + 1, index, char :: rest => (decodeBytesFrom fuel (index + 1) rest).map (char.toNat :: ·)

/-- The bytes of a literal; nothing is an escape if it is raw. -/
def decodeBytes (raw : Bool) (text : List Char) : Except String (List Nat) :=
  if raw then .ok (text.map Char.toNat) else decodeBytesFrom text.length 0 text

end Escape

end IfChains
