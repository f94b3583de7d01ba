/-
**The normal form of names.**

Two spellings of a name that differ only in the form of their characters (full width, ligature,
letter and accent apart, accents in another order) are one name. `CodePoints.normalName` takes each
character apart into letters and marks, by its compatible form and by what that is made of, puts the
marks behind a letter in the order of their classes, and joins the letter again with the marks that
nothing separates from it. A name in ASCII is its own normal form.
-/

import IfChains.Text.Normal.Compatible
import IfChains.Text.Normal.Composed
import IfChains.Text.Normal.MarkClass

namespace IfChains

namespace CodePoints

section Apart

/-- The letters and marks that a code point is made of, down to a depth. -/
def apartWithin : (depth : Nat) → Nat → CodePoints
  | 0, point => [point]
  | depth + 1, point =>
    match compatible? point, pairOf? point with
    | some form, _ => form.flatMap (apartWithin depth)
    | none, some (first, second) => apartWithin depth first ++ apartWithin depth second
    | none, none => [point]

/-- The letters and marks that a code point is made of; no character of the tables is made of others
more than three deep. -/
def apart (point : Nat) : CodePoints :=
  apartWithin 4 point

end Apart

section Order

/-- Adds a code point behind some others (the last one first): a mark comes before the marks of a
higher class. -/
def settle (point : Nat) : CodePoints → CodePoints
  | [] => [point]
  | last :: others =>
    if markClass point ≠ 0 && markClass point < markClass last then last :: settle point others
    else point :: last :: others

/-- The code points with the marks behind each letter in the order of their classes, the last one
first. -/
def settled (points : CodePoints) : CodePoints :=
  points.foldl (fun before point => settle point before) []

end Order

section Joining

/-- Text in the middle of being joined: what is finished (the last one first), the letter that marks
may still join, and the marks behind it that have not joined it (the last one first). -/
structure Joined where
  finished : CodePoints := []
  letter : Option Nat := none
  marks : CodePoints := []

namespace Joined

/-- All code points of a text, the last one first. -/
def all (joined : Joined) : CodePoints :=
  joined.marks ++ joined.letter.toList ++ joined.finished

/-- Whether nothing separates a code point from the letter: no mark is left behind the letter, or
the last one is of a lower class. -/
def reaches (joined : Joined) (point : Nat) : Bool :=
  match joined.marks with
  | [] => true
  | mark :: _ => markClass mark < markClass point

/-- Adds a code point to a text. -/
def add (joined : Joined) (point : Nat) : Joined :=
  let both := joined.letter.bind fun letter =>
    if joined.reaches point then composed? letter point else none
  match both with
  | some both => { joined with letter := some both }
  | none =>
    if markClass point = 0 then { finished := joined.all, letter := some point }
    else if joined.letter.isNone then { joined with finished := point :: joined.finished }
    else { joined with marks := point :: joined.marks }

end Joined

/-- Joins each letter with the marks that follow it. -/
def compose (points : CodePoints) : CodePoints :=
  (points.foldl Joined.add {}).all.reverse

end Joining

/-- The normal form of a name. -/
def normalName (name : String) : String :=
  if name.toList.all fun char => char.toNat < 128 then name
  else toText (compose (settled ((ofString name).flatMap apart)).reverse)

end CodePoints

end IfChains
