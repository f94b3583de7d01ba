/-
**The extent of a number literal.**

`extent` says how many characters of a text that begins with a digit, or with a point and a digit,
make up one number literal, or how far the reader gets before it finds a fault. Digits may be parted
by single underscores; a literal must not run into a name, except into a keyword that can follow it.
-/

import IfChains.SyntaxFault
import IfChains.Text.Name

namespace IfChains

namespace Number

/-- A fault in a literal, behind so many characters of it. -/
structure Misfit where
  fault : SyntaxFault
  count : Nat
deriving DecidableEq, Repr

/-- Whether a character can stand inside a name, so that a number must not run into it. -/
def isNameChar (char : Char) : Bool :=
  char.isAlphanum || char == '_' || 128 ≤ char.toNat

/-- The keywords that may follow a number without a blank, if they do not run into a name. -/
def followers : List (List Char) :=
  [['a', 'n', 'd'], ['e', 'l', 's', 'e'], ['f', 'o', 'r'], ['o', 'r'], ['n', 'o', 't']]

/-- The beginnings of keywords and names that may follow a number without a blank. -/
def looseFollowers : List (List Char) :=
  [['i', 'f'], ['i', 'n'], ['i', 's']]

/-- Whether a text begins with a word that may follow a number without a blank. -/
def beginsFollower (rest : List Char) : Bool :=
  looseFollowers.any (fun word => word.isPrefixOf rest) ||
    followers.any fun word =>
      word.isPrefixOf rest && !((rest.drop word.length).head?.any isNameChar)

/-- The literal ends here, unless it runs into a name. -/
def ending (kind : NumberKind) (count : Nat) (rest : List Char) : Except Misfit Nat :=
  if beginsFollower rest then .ok count
  else match rest with
    | char :: _ => if isNameChar char then .error ⟨.invalidNumber kind, count⟩ else .ok count
    | [] => .ok count

/-- The characters of a run of decimal digits behind its first one, and what follows them. -/
def decimalTail (count : Nat) : List Char → Except Misfit (Nat × List Char)
  | [] => .ok (count, [])
  | char :: rest =>
    if char.isDigit then decimalTail (count + 1) rest
    else if char = '_' then
      if (rest.head?.map Char.isDigit).getD false then decimalTail (count + 1) rest
      else .error ⟨.invalidNumber .decimal, count + 1⟩
    else .ok (count, char :: rest)

/-- Whether a character is a digit of a kind of number. -/
def isDigitOf : NumberKind → Char → Bool
  | .hexadecimal, char =>
    char.isDigit || ('a' ≤ char && char ≤ 'f') || ('A' ≤ char && char ≤ 'F')
  | .octal, char => '0' ≤ char && char ≤ '7'
  | .binary, char => char == '0' || char == '1'
  | _, char => char.isDigit

/-- The fault of a character that is no digit of a kind of number. -/
def misdigit (kind : NumberKind) (count : Nat) : Option Char → Misfit
  | some char =>
    if char.isDigit && kind != .hexadecimal then ⟨.invalidDigit char kind, count + 1⟩
    else ⟨.invalidNumber kind, count⟩
  | none => ⟨.invalidNumber kind, count⟩

/-- The rest of a number with a base of its own; a digit is due behind the letter of the base and
behind an underscore. -/
def radixTail (kind : NumberKind) (due parted : Bool) (count : Nat) :
    List Char → Except Misfit Nat
  | [] => if due then .error (misdigit kind count none) else .ok count
  | char :: rest =>
    if isDigitOf kind char then radixTail kind false false (count + 1) rest
    else if char = '_' && !(due && parted) then radixTail kind true true (count + 1) rest
    else if due || (char.isDigit && kind != .hexadecimal) then
      .error (misdigit kind count (some char))
    else ending kind count (char :: rest)

/-- The letter of an imaginary number, or the end of the literal. -/
def imaginaryPart (count : Nat) : List Char → Except Misfit Nat
  | char :: rest =>
    if char = 'j' || char = 'J' then ending .imaginary (count + 1) rest
    else ending .decimal count (char :: rest)
  | [] => .ok count

/-- The exponent, if there is one, and what follows it. -/
def exponentPart (count : Nat) : List Char → Except Misfit Nat
  | letter :: rest =>
    if letter = 'e' || letter = 'E' then
      match rest with
      | sign :: digit :: tail =>
        if sign.isDigit then do
          let (count, rest) ← decimalTail (count + 2) (digit :: tail)
          imaginaryPart count rest
        else if sign = '+' || sign = '-' then
          if digit.isDigit then do
            let (count, rest) ← decimalTail (count + 3) tail
            imaginaryPart count rest
          else .error ⟨.invalidNumber .decimal, count + 2⟩
        else ending .decimal count (letter :: rest)
      | [sign] =>
        if sign.isDigit then .ok (count + 2)
        else if sign = '+' || sign = '-' then .error ⟨.invalidNumber .decimal, count + 2⟩
        else ending .decimal count (letter :: rest)
      | [] => ending .decimal count (letter :: rest)
    else imaginaryPart count (letter :: rest)
  | [] => .ok count

/-- The digits behind the point. -/
def fraction (count : Nat) (rest : List Char) : Except Misfit Nat :=
  match rest with
  | digit :: tail =>
    if digit.isDigit then do
      let (count, rest) ← decimalTail (count + 1) tail
      exponentPart count rest
    else exponentPart count rest
  | [] => .ok count

/-- What may follow the whole part. -/
def fractionPart (count : Nat) : List Char → Except Misfit Nat
  | '.' :: rest => fraction (count + 1) rest
  | rest => exponentPart count rest

/-- Zeros at the start of a decimal number, parted by underscores, and what follows them. -/
def zeros (count : Nat) : List Char → Except Misfit (Nat × List Char)
  | '0' :: rest => zeros (count + 1) rest
  | '_' :: rest =>
    if (rest.head?.map Char.isDigit).getD false then zeros (count + 1) rest
    else .error ⟨.invalidNumber .decimal, count + 1⟩
  | rest => .ok (count, rest)

/-- Whether a character makes a number with leading zeros a decimal fraction after all. -/
def continuesZeros : Option Char → Bool
  | some char => char == '.' || char == 'e' || char == 'E' || char == 'j' || char == 'J'
  | none => false

/-- The number of characters of the literal at the start of a text. -/
def extent : List Char → Except Misfit Nat
  | '.' :: rest => fraction 1 rest
  | '0' :: letter :: rest =>
    if letter = 'x' || letter = 'X' then radixTail .hexadecimal true false 2 rest
    else if letter = 'o' || letter = 'O' then radixTail .octal true false 2 rest
    else if letter = 'b' || letter = 'B' then radixTail .binary true false 2 rest
    else do
      let (count, rest) ← zeros 1 (letter :: rest)
      match rest with
      | digit :: tail =>
        if digit.isDigit then
          let (count, rest) ← decimalTail (count + 1) tail
          if continuesZeros rest.head? then fractionPart count rest
          else .error ⟨.leadingZeros, 1⟩
        else fractionPart count rest
      | [] => .ok count
  | _ :: rest => do
    let (count, rest) ← decimalTail 1 rest
    fractionPart count rest
  | [] => .ok 0

end Number

end IfChains
