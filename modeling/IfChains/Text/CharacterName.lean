/-
**The names of characters.**

Most characters have a name in a table, by the tables of Unicode 14, where capitals and small
letters count as one. The name of a Korean syllable is told by its parts, and that of an ideograph
by its number.
-/

import IfChains.Text.CharacterName.Ancient
import IfChains.Text.CharacterName.Brahmic
import IfChains.Text.CharacterName.EastAsian
import IfChains.Text.CharacterName.Emblem
import IfChains.Text.CharacterName.European
import IfChains.Text.CharacterName.Form
import IfChains.Text.CharacterName.Further
import IfChains.Text.CharacterName.Gesture
import IfChains.Text.CharacterName.Inscribed
import IfChains.Text.CharacterName.NearEastern
import IfChains.Text.CharacterName.Notation
import IfChains.Text.CharacterName.Operator
import IfChains.Text.CharacterName.Phonetic
import IfChains.Text.CharacterName.Pictograph
import IfChains.Text.CharacterName.Regional
import IfChains.Text.CharacterName.Shape
import IfChains.Text.CharacterName.Sign
import IfChains.Text.CharacterName.SouthAsian
import IfChains.Text.CharacterName.Syllabic
import IfChains.Text.Table

namespace IfChains

namespace CharacterName

section Listed

/-- All tables of names. In a table, semicolons end runs of names, and marks stand between the
parts of a run. -/
def tables : List String :=
  [european, nearEastern, southAsian, syllabic, phonetic, sign, shape, operator, eastAsian,
    regional, form, ancient, brahmic, inscribed, notations, gesture, pictograph, emblem,
    further].flatten

/-- The names of consecutive characters: the first of these, the beginning that the names share, and
how they go on, which is nothing for a character without a name. -/
structure Run where
  first : Nat
  shared : List Char
  rests : List (List Char)

namespace Run

/-- The run that a part of a table spells: a number, a blank, the shared beginning, the rests. -/
def ofText (text : List Char) : Run :=
  let parts := Table.parts '|' text
  let head := parts.headD []
  let number := head.takeWhile (· != ' ')
  ⟨Table.ofHex number, head.drop (number.length + 1), parts.tail⟩

/-- The character of a name in a run. -/
def code? (run : Run) (name : List Char) : Option Nat :=
  let (start, rest) := name.splitAt run.shared.length
  if start = run.shared && !rest.isEmpty then
    (run.rests.findIdx? (· == rest)).map (run.first + ·)
  else none

end Run

/-- A table without the line breaks and the blanks behind them. -/
def joined (table : String) : List Char :=
  (Table.parts '\n' table.toList).flatMap fun line => line.dropWhile (· == ' ')

/-- The character of a name in the tables. -/
def listed? (name : List Char) : Option Nat :=
  tables.findSome? fun table =>
    (Table.parts ';' (joined table)).findSome? fun text => (Run.ofText text).code? name

end Listed

section Numbered

/-- Names that end with the number of the character, and the first and last of these. -/
def numberedNames : List (String × Nat × Nat) :=
  [("CJK COMPATIBILITY IDEOGRAPH-", 0xF900, 0xFA6D),
    ("CJK COMPATIBILITY IDEOGRAPH-", 0xFA70, 0xFAD9),
    ("CJK COMPATIBILITY IDEOGRAPH-", 0x2F800, 0x2FA1D),
    ("KHITAN SMALL SCRIPT CHARACTER-", 0x18B00, 0x18CD5),
    ("NUSHU CHARACTER-", 0x1B170, 0x1B2FB)]

/-- The ideographs whose names end with their number. -/
def ideographs : List (Nat × Nat) :=
  [(0x3400, 0x4DBF), (0x4E00, 0x9FFF), (0x20000, 0x2A6DF), (0x2A700, 0x2B738),
    (0x2B740, 0x2B81D), (0x2B820, 0x2CEA1), (0x2CEB0, 0x2EBE0), (0x30000, 0x3134A)]

/-- The number that four or five digits spell, in capitals. -/
def number? (digits : List Char) : Option Nat :=
  let isDigit := fun char => char.isDigit || 'A' ≤ char && char ≤ 'F'
  if (digits.length = 4 || digits.length = 5) && digits.all isDigit then
    some (Table.ofHex digits)
  else none

/-- What follows a beginning of a name. -/
def behind? (start : String) (name : List Char) : Option (List Char) :=
  let (here, rest) := name.splitAt start.length
  if here = start.toList then some rest else none

/-- The character of a name that ends with its number, which has no needless zero in front. -/
def numbered? (name : List Char) : Option Nat :=
  numberedNames.findSome? fun (start, first, last) => do
    let digits ← behind? start name
    let code ← number? digits
    if first ≤ code && code ≤ last && (digits.length = 4 || 0x10000 ≤ code) then some code
    else none

/-- The ideograph of a number. -/
def ideograph? (digits : List Char) : Option Nat := do
  let code ← number? digits
  if ideographs.any fun (first, last) => first ≤ code && code ≤ last then some code else none

end Numbered

section Syllables

/-- The consonants that begin a Korean syllable. -/
def initials : List String :=
  ["G", "GG", "N", "D", "DD", "R", "M", "B", "BB", "S", "SS", "", "J", "JJ", "C", "K", "T", "P",
    "H"]

/-- The vowels of a Korean syllable. -/
def vowels : List String :=
  ["A", "AE", "YA", "YAE", "EO", "E", "YEO", "YE", "O", "WA", "WAE", "OE", "YO", "U", "WEO", "WE",
    "WI", "YU", "EU", "YI", "I"]

/-- The consonants that end a Korean syllable. -/
def finals : List String :=
  ["", "G", "GG", "GS", "N", "NJ", "NH", "D", "L", "LG", "LM", "LB", "LS", "LT", "LP", "LH", "M",
    "B", "BS", "S", "SS", "NG", "J", "C", "K", "T", "P", "H"]

/-- The place of the longest of some parts that a text begins with, and what follows it. -/
def longest? (parts : List String) (text : List Char) : Option (Nat × List Char) :=
  let starts := parts.zipIdx.filterMap fun (part, place) =>
    (behind? part text).map fun rest => (place, rest)
  starts.foldl (fun best start =>
    match best with
    | some (_, rest) => if start.2.length < rest.length then some start else best
    | none => some start) none

/-- The syllable of three parts. -/
def syllable? (text : List Char) : Option Nat := do
  let (initial, rest) ← longest? initials text
  let (vowel, rest) ← longest? vowels rest
  let (final, rest) ← longest? finals rest
  if rest.isEmpty then some (0xAC00 + (21 * initial + vowel) * 28 + final) else none

end Syllables

/-- The character of a name. Korean syllables and ideographs are named in capitals. -/
def code? (name : List Char) : Option Nat :=
  match behind? "HANGUL SYLLABLE " name, behind? "CJK UNIFIED IDEOGRAPH-" name with
  | some parts, _ => syllable? parts
  | none, some digits => ideograph? digits
  | none, none =>
    let name := name.map Char.toUpper
    (numbered? name).or (listed? name)

end CharacterName

end IfChains
