/-
**Texts written with as few escapes as can be.**

`Quotation.choose` escapes a text and lists the quotes that may stand around it: a text with a line
break needs triple quotes, and a quote must not occur in the text. When none is left, the text is
quoted with escapes after all.
-/

import IfChains.Text.Quoted

namespace IfChains

/-- The quotes that may stand around a text, the preferred one first. -/
abbrev Quotes := List CodePoints

namespace Quotes

def single : CodePoints := [39]
def double : CodePoints := [34]
def tripleDouble : CodePoints := [34, 34, 34]
def tripleSingle : CodePoints := [39, 39, 39]

/-- The quotes for a text that may span lines. -/
def multiline : Quotes := [tripleDouble, tripleSingle]

/-- All quotes. -/
def all : Quotes := [single, double, tripleDouble, tripleSingle]

end Quotes

namespace Quotation

/-- A code point in a text whose quote is not fixed yet; line feeds and tabs stay unless told. -/
def escapeUnquoted (whitespaceToo : Bool) (point : Nat) : CodePoints :=
  if !whitespaceToo && (point = 10 || point = 9) then [point]
  else if point = 92 || !CodePoints.isPrintable point then
    (CodePoints.escape point).map Char.toNat
  else [point]

/-- Whether a sequence occurs in another. -/
def occursIn (part : CodePoints) : CodePoints → Bool
  | [] => part.isEmpty
  | point :: rest => part.isPrefixOf (point :: rest) || occursIn part rest

/-- The quotes that do not end in a given code point come first. -/
def preferring (last : Nat) (quotes : Quotes) : Quotes :=
  quotes.filter (fun quote => quote.head? != some last) ++
    quotes.filter (fun quote => quote.head? == some last)

/-- A text with its escapes, and the quotes that may stand around it. -/
def choose (quotes : Quotes) (whitespaceToo : Bool) (text : CodePoints) : CodePoints × Quotes :=
  let escaped := text.flatMap (escapeUnquoted whitespaceToo)
  let fitting := if escaped.contains 10 then quotes.filter Quotes.multiline.contains else quotes
  let possible := fitting.filter fun quote => !occursIn quote escaped
  match possible, escaped.getLast? with
  | [], _ =>
    let mark := CodePoints.quoteFor text
    let quote := (quotes.find? fun quote => quote.contains mark).getD [mark]
    (text.flatMap fun point => (CodePoints.escapePoint mark point).map Char.toNat, [quote])
  | _, none => (escaped, possible)
  | _, some last =>
    let ordered := preferring last possible
    if (ordered.head?.bind List.head?) = some last then
      (escaped.dropLast ++ [92, last], ordered)
    else (escaped, ordered)

/-- A text between the best of some quotes. -/
def write (quotes : Quotes) (text : CodePoints) : CodePoints :=
  let chosen := choose quotes false text
  let quote := chosen.2.headD []
  quote ++ chosen.1 ++ quote

/-- The parts of a formatted text, each chosen with the quotes that the parts before it leave, and
the quotes left in the end. A part that is literal text may have its line breaks escaped. -/
def chooseAll : Quotes → List (CodePoints × Bool) → CodePoints × Quotes
  | quotes, [] => ([], quotes)
  | quotes, (part, literal) :: rest =>
    let chosen := choose quotes literal part
    let others := chooseAll chosen.2 rest
    (chosen.1 ++ others.1, others.2)

/-- A formatted text between quotes, from its parts: the last parts decide on the quote, also where
it does not suit the first ones. -/
def writeParts (parts : List (CodePoints × Bool)) : CodePoints :=
  let chosen := chooseAll Quotes.all parts
  let quote := chosen.2.headD []
  quote ++ chosen.1 ++ quote

end Quotation

end IfChains
