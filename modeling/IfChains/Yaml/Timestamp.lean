/-
**Days and times written in YAML.**

A day is written with its year, month and day between hyphens. A time may follow behind a letter or
blanks: hours, minutes and seconds between colons, perhaps a fraction of a second, and perhaps a
zone, which is a letter or an offset in hours and minutes.
-/

import IfChains.Yaml.Cursor

namespace IfChains

namespace Yaml

section Parts

/-- The parts of a text between marks. -/
def partsBetween (mark : Char) : List Char → List (List Char)
  | [] => [[]]
  | char :: rest =>
    if char == mark then [] :: partsBetween mark rest
    else match partsBetween mark rest with
      | [] => [[char]]
      | part :: parts => (char :: part) :: parts

/-- The numbers that the parts of a text spell, if they have as many digits as they should. -/
def numbersOf : List (Nat × Nat) → List (List Char) → Option (List Nat)
  | [], [] => some []
  | (least, most) :: widths, part :: parts => do
    let rest ← numbersOf widths parts
    if part.all Char.isDigit && least ≤ part.length && part.length ≤ most then
      some (part.foldl (fun value digit => 10 * value + (digit.toNat - 48)) 0 :: rest)
    else none
  | _, _ => none

/-- Whether a character is a blank within a line. -/
def isInnerBlank (char : Char) : Bool :=
  char == ' ' || char == '\t'

end Parts

/-- A time as it is written: the numbers of hours, minutes and seconds, the digits of the fraction,
and the offset of the zone in minutes. -/
structure WrittenTime where
  hour : Nat
  minute : Nat
  second : Nat
  fraction : List Char
  zone : Option Int

/-- A day as it is written, and the time behind it. -/
structure Timestamp where
  year : Nat
  month : Nat
  day : Nat
  time : Option WrittenTime

namespace Timestamp

/-- The offset of a zone, if a text is that of one; an empty text is that of no zone. -/
def zone? (chars : List Char) : Option (Option Int) :=
  match chars.dropWhile isInnerBlank with
  | [] => if chars.isEmpty then some none else none
  | ['Z'] => some (some 0)
  | sign :: rest =>
    let minutes : Option Nat :=
      match numbersOf [(1, 2)] [rest], numbersOf [(1, 2), (2, 2)] (partsBetween ':' rest) with
      | some [hours], _ => some (60 * hours)
      | _, some [hours, minutes] => some (60 * hours + minutes)
      | _, _ => none
    if sign == '+' then minutes.map fun count => some (count : Int)
    else if sign == '-' then minutes.map fun count => some (-(count : Int))
    else none

/-- The time that a text behind a day is that of. -/
def time? (chars : List Char) : Option WrittenTime := do
  let clock := chars.takeWhile fun char => char.isDigit || char == ':'
  let rest := chars.drop clock.length
  let (fraction, rest) := match rest with
    | '.' :: rest => (rest.takeWhile Char.isDigit, rest.dropWhile Char.isDigit)
    | rest => ([], rest)
  let zone ← zone? rest
  match numbersOf [(1, 2), (2, 2), (2, 2)] (partsBetween ':' clock) with
  | some [hour, minute, second] => some ⟨hour, minute, second, fraction, zone⟩
  | _ => none

/-- The day, perhaps with a time, that a text is that of. -/
def ofText? (chars : List Char) : Option Timestamp := do
  let date := chars.takeWhile fun char => char.isDigit || char == '-'
  let time ← match chars.drop date.length with
    | [] => some none
    | mark :: rest =>
      if mark == 'T' || mark == 't' then (time? rest).map some
      else if isInnerBlank mark then (time? (rest.dropWhile isInnerBlank)).map some
      else none
  match numbersOf [(4, 4), (1, 2), (1, 2)] (partsBetween '-' date) with
  | some [year, month, day] => some ⟨year, month, day, time⟩
  | _ => none

/-- Whether a text that is not tagged is that of a day or a time: a day alone has all its digits. -/
def isPlain (chars : List Char) : Bool :=
  match ofText? chars with
  | some ⟨_, _, _, none⟩ => chars.length == 10
  | some ⟨_, _, _, some _⟩ => true
  | none => false

example : isPlain "2001-12-14 21:59:43.10 -5".toList = true := by decide +kernel
example : isPlain "2001-1-14".toList = false := by decide +kernel

end Timestamp

end Yaml

end IfChains
