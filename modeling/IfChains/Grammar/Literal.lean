/-
**Numbers and texts in a program.**

Adjacent text literals are one text. In a formatted text, an expression stands between braces, may
be followed by a conversion letter and by a format, which is a formatted text in turn, and a doubled
brace is a brace. The expression is read as a text of its own, in parentheses, whose tokens are then
placed where the expression stands.
-/

import IfChains.Grammar.Conclusion
import IfChains.Grammar.Node
import IfChains.Text.Escape

namespace IfChains

namespace Grammar

open Reading

section Numbers

/-- The value of a number literal in a base. -/
def digitsIn (base : Nat) (digits : List Char) : Nat :=
  digits.foldl (fun value char => base * value + (Escape.hexValue? char).getD 0) 0

/-- A decimal literal as a whole number and a power of ten. -/
def decimalParts (text : List Char) : Nat × Int :=
  let mantissa := text.takeWhile fun char => char != 'e' && char != 'E'
  let exponent := text.drop (mantissa.length + 1)
  let whole := mantissa.takeWhile (· != '.')
  let fraction := mantissa.drop (whole.length + 1)
  let shift : Int := match exponent with
    | '-' :: digits => -(digitsIn 10 digits : Int)
    | '+' :: digits => digitsIn 10 digits
    | digits => digitsIn 10 digits
  (digitsIn 10 (whole ++ fraction), shift - fraction.length)

/-- The value of a decimal literal. -/
def decimalValue (text : List Char) : Double :=
  Double.ofDecimal (decimalParts text).1 (decimalParts text).2

/-- The constant a number literal spells. A whole number with leading zeros counts as a fraction. -/
def numberOf (spelling : String) : Constant :=
  let text := spelling.toList.filter (· != '_')
  match text with
  | '0' :: letter :: digits =>
    if letter = 'x' || letter = 'X' then .int (digitsIn 16 digits)
    else if letter = 'o' || letter = 'O' then .int (digitsIn 8 digits)
    else if letter = 'b' || letter = 'B' then .int (digitsIn 2 digits)
    else ordinary text
  | _ => ordinary text
where
  /-- The constant a decimal literal spells. -/
  ordinary (text : List Char) : Constant :=
    if text.getLast? = some 'j' || text.getLast? = some 'J' then
      .imaginary (decimalValue text.dropLast)
    else if (text.any fun char => char == '.' || char == 'e' || char == 'E') ||
        text.head? = some '0' && text.any (· != '0') then
      .float (decimalValue text)
    else .int (digitsIn 10 text)

/-- The number of decimal digits of a literal that spells a whole number by them. -/
def decimalCount (spelling : String) : Nat :=
  let text := spelling.toList.filter (· != '_')
  if text.all Char.isDigit && text.head? != some '0' then text.length else 0

/-- A number literal. -/
def number : Reading SourceTree := do
  let token ← kind .number
  let count := decimalCount token.spelling
  if Whole.digitLimit < count then
    raise (failureAt (← get) (.tooManyDigits count) token.line 0)
  return tree (placeOf token) (.constant (numberOf token.spelling)) []

end Numbers

section Texts

/-- A text literal taken apart. -/
structure TextLiteral where
  bytes : Bool
  raw : Bool
  formatted : Bool
  /-- The number of characters before the content. -/
  lead : Nat
  content : List Char

/-- Takes a text literal apart. -/
def textLiteral (spelling : List Char) : TextLiteral :=
  let letters := (spelling.takeWhile Char.isAlpha).map Char.toLower
  let quoted := spelling.drop letters.length
  let size := if 6 ≤ quoted.length && quoted.take 1 == (quoted.drop 1).take 1 &&
    quoted.take 1 == (quoted.drop 2).take 1 then 3 else 1
  { bytes := letters.contains 'b'
    raw := letters.contains 'r'
    formatted := letters.contains 'f'
    lead := letters.length + size
    content := (quoted.drop size).take (quoted.length - 2 * size) }

/-- What a run of literal text in a formatted text ends with. -/
inductive RunEnd
  /-- The end of the text. -/
  | finish
  /-- A single brace, which is the next character. -/
  | brace
  /-- A doubled brace, the first of which belongs to the run. -/
  | doubled
  /-- A closing brace that nothing has opened. -/
  | stray

/-- The number of characters of a character's name in braces, the braces included. What stands in
the place of the opening brace counts as well. -/
def namedExtent : List Char → Nat
  | '{' :: name => (name.takeWhile (· != '}')).length + 2
  | _ => 1

/-- The number of characters of literal text up to the next brace, and how that text ends. The first
characters, so many as are to be skipped, belong to the name of a character. -/
def runExtent (raw : Bool) (level : Nat) : (skipped : Nat) → List Char → Nat × RunEnd
  | _, [] => (0, .finish)
  | skipped + 1, _ :: rest =>
    let (count, ending) := runExtent raw level skipped rest
    (count + 1, ending)
  | 0, char :: rest =>
    if char = '{' || char = '}' then
      if level = 0 && rest.head? = some char then (1, .doubled)
      else if level = 0 && char = '}' then (0, .stray)
      else (0, .brace)
    else
      let escaped := if raw || char ≠ '\\' then 0
        else match rest with
          | '{' :: _ => 0
          | '}' :: _ => 0
          | 'N' :: name => 1 + namedExtent name
          | _ => 1
      let (count, ending) := runExtent raw level escaped rest
      (count + 1, ending)

/-- Whether a character is a blank or ends a line. -/
def isBlankOrBreak (char : Char) : Bool :=
  char == ' ' || char == '\t' || char == '\n' || char == '\x0c'

/-- What is wrong with the extent of a replacement field. -/
abbrev FieldReport := String

/-- The quotes that a place in a replacement field is between. -/
inductive Quotes
  | none
  | single (quote : Char)
  | triple (quote : Char)

/-- The number of characters of the expression of a replacement field. The characters to be skipped
are quotes; `stack` holds the open brackets. -/
def fieldExtent : (skipped : Nat) → Quotes → (stack : List Char) → List Char →
    Except FieldReport Nat
  | _, quotes, stack, [] =>
    match quotes, stack with
    | .none, [] => .error ": expecting '\x7d'"
    | .none, bracket :: _ => .error (": unmatched '" ++ String.singleton bracket ++ "'")
    | _, _ => .error ": unterminated string"
  | skipped + 1, quotes, stack, _ :: rest => (fieldExtent skipped quotes stack rest).map (· + 1)
  | 0, quotes, stack, char :: rest =>
    let onward := fun skipped quotes stack => (fieldExtent skipped quotes stack rest).map (· + 1)
    let tripled := rest.take 2 == [char, char]
    if char = '\\' then .error " expression part cannot include a backslash"
    else match quotes with
      | .single quote => onward 0 (if char = quote then .none else quotes) stack
      | .triple quote =>
        if char = quote && tripled then onward 2 .none stack else onward 0 quotes stack
      | .none =>
        if char = '\'' || char = '"' then
          if tripled then onward 2 (.triple char) stack else onward 0 (.single char) stack
        else if char = '[' || char = '{' || char = '(' then
          if 200 ≤ stack.length then .error ": too many nested parenthesis"
          else onward 0 .none (char :: stack)
        else if char = '#' then .error " expression part cannot include '#'"
        else if stack.isEmpty && ['!', ':', '}', '=', '<', '>'].contains char then
          if ['!', '=', '<', '>'].contains char && rest.head? = some '=' then onward 1 .none stack
          else if char = '<' || char = '>' then onward 0 .none stack
          else .ok 0
        else if char = ']' || char = '}' || char = ')' then
          match stack with
          | [] => .error (": unmatched '" ++ String.singleton char ++ "'")
          | opening :: outer =>
            if Lexer.partner opening = char then onward 0 .none outer
            else .error (": closing parenthesis '" ++ String.singleton char ++
              "' does not match opening parenthesis '" ++ String.singleton opening ++ "'")
        else onward 0 .none stack

end Texts

section FormattedTexts

/-- A part of a text: literal text or a replacement field. -/
inductive Piece
  | text (value : CodePoints)
  | field (tree : SourceTree)

/-- What stays the same while a formatted text is read. -/
structure Formatted where
  token : Token
  literal : TextLiteral
  /-- The place of the first of the adjacent literals. -/
  place : Position
  /-- The first of the adjacent literals begins with the letter `u`. -/
  marked : Bool

namespace Formatted

/-- The characters of the token before the part of the content that is left. -/
def before (formatted : Formatted) (rest : List Char) : List Char :=
  formatted.token.spelling.toList.take
    (formatted.literal.lead + (formatted.literal.content.length - rest.length))

/-- Whether only blanks follow in the line. -/
def endsLine (rest : List Char) : Bool :=
  let behind := rest.dropWhile fun char => char == ' ' || char == '\t' || char == '\x0c'
  behind.head? == some '\n' || behind.head? == some '}' || behind.isEmpty

/-- The place of the opening brace of a field, given the text behind it. -/
def fieldPlace (formatted : Formatted) (inner : List Char) : Position :=
  let before := (formatted.before inner).dropLast
  let lines := before.count '\n'
  let line := (before.reverse.takeWhile (· != '\n')).foldl (fun sum char => sum + char.utf8Size) 0
  let column := if endsLine inner then 0 else line
  ⟨formatted.token.line + lines,
    if lines = 0 then formatted.token.start + column else column⟩

/-- The tree of some pieces: adjacent texts are one constant, and empty ones are dropped. -/
def assemble (formatted : Formatted) (pieces : List Piece) : List SourceTree :=
  let close := fun (points : CodePoints) (trees : List SourceTree) =>
    if points.isEmpty then trees
    else tree formatted.place (.constant (.text points formatted.marked)) [] :: trees
  let (points, trees) := pieces.foldr (fun piece (points, trees) =>
    match piece with
    | .text value => (value ++ points, trees)
    | .field field => ([], field :: close points trees)) (([] : CodePoints), ([] : List SourceTree))
  close points trees

/-- The formatted text of some pieces. -/
def joined (formatted : Formatted) (pieces : List Piece) : SourceTree :=
  tree formatted.place .joinedStr (each .values (formatted.assemble pieces))

/-- The expression of a replacement field. -/
def expression (formatted : Formatted) (inner expression : List Char) : Reading SourceTree :=
  fun table state =>
    let place := formatted.fieldPlace inner
    let text := Lexer.asLines ('(' :: expression ++ [')'])
    let start := { ReadingState.ofText text with
      lexer := { Lexer.ofText text with line := place.line - 1 }, field := some place }
    match whole (one .starExpressions) table start with
    | .ok tree => (.ok tree, state)
    | .error failure => (.error (.fault failure false), state)

/-- Fails at the last token with a report on a replacement field. -/
def report {α : Type} (reason : FieldReport) : Reading α :=
  faultAtLast (.fieldFault reason)

/-- The report on an empty expression, given what stands behind it. -/
def emptyReport (rest : List Char) : FieldReport :=
  match rest with
  | '}' :: _ => ": empty expression not allowed"
  | char :: _ => ": expression required before '" ++ String.singleton char ++ "'"
  | [] => ": empty expression not allowed"

/-- The text of an expression that is shown with its value, up to what follows the equals sign. -/
def shown (expression rest : List Char) : List Char × List Char :=
  match rest with
  | '=' :: others =>
    let blanks := others.takeWhile fun char => char == ' ' || '\t' ≤ char && char ≤ '\r'
    (expression ++ '=' :: blanks, others.drop blanks.length)
  | _ => ([], rest)

/-- The conversion letter of a replacement field, and what follows it. -/
def conversion : List Char → Reading (Option Char × List Char)
  | ['!'] => report ": expecting '\x7d'"
  | '!' :: letter :: rest =>
    if letter = 's' || letter = 'r' || letter = 'a' then pure (some letter, rest)
    else report ": invalid conversion character: expected 's', 'r', or 'a'"
  | rest => pure (none, rest)

/-- The text of the escapes in literal text. -/
def decoded (formatted : Formatted) (text : List Char) : Reading Piece :=
  match Escape.decode formatted.literal.raw text with
  | .ok points => pure (.text points)
  | .error reason => faultAtLast (.badEscape reason)

mutual

/-- The pieces of a formatted text, and the part of it that is left. Formats are at level one. -/
def pieces (formatted : Formatted) : (fuel level : Nat) → List Char →
    Reading (List Piece × List Char)
  | 0, _, rest => pure ([], rest)
  | fuel + 1, level, rest => do
    let (count, ending) := runExtent formatted.literal.raw level 0 rest
    let behind := rest.drop count
    match ending with
    | .stray => report ": single '\x7d' is not allowed"
    | .finish => return ([← formatted.decoded rest], [])
    | .doubled =>
      let text ← formatted.decoded (rest.take count)
      let (others, rest) ← formatted.pieces fuel level behind.tail
      return (text :: others, rest)
    | .brace =>
      let text ← formatted.decoded (rest.take count)
      if behind.head? = some '}' then return ([text], behind)
      let (field, rest) ← formatted.field fuel level behind.tail
      let (others, rest) ← formatted.pieces fuel level rest
      return (text :: field ++ others, rest)

/-- The pieces of a replacement field behind its opening brace, and the text behind the field. -/
def field (formatted : Formatted) : (fuel level : Nat) → List Char →
    Reading (List Piece × List Char)
  | 0, _, rest => pure ([], rest)
  | fuel + 1, level, inner => do
    if 2 ≤ level then report ": expressions nested too deeply"
    match fieldExtent 0 .none [] inner with
    | .error reason => report reason
    | .ok count =>
      let text := inner.take count
      let rest := inner.drop count
      if text.all isBlankOrBreak then report (emptyReport rest)
      let value ← formatted.expression inner text
      let (shownText, rest) := shown text rest
      if rest.isEmpty then report ": expecting '\x7d'"
      let (letter, rest) ← conversion rest
      let (format, rest) ← match rest with
        | [':'] => report ": expecting '\x7d'"
        | ':' :: format => do
          let (pieces, rest) ← formatted.pieces fuel (level + 1) format
          if rest.head? ≠ some '}' then report ": expecting '\x7d'"
          pure (some (formatted.joined pieces), rest)
        | _ => pure (none, rest)
      if rest.head? ≠ some '}' then report ": expecting '\x7d'"
      let letter := if !shownText.isEmpty && format.isNone && letter.isNone then some 'r'
        else letter
      let field := tree formatted.place (.formattedValue letter)
        ((.value, value) :: optional .formatSpec format)
      return ([.text (shownText.map Char.toNat), .field field], rest.tail)

end

end Formatted

/-- The pieces of one text literal. -/
def literalPieces (place : Position) (marked : Bool) (token : Token) : Reading (List Piece) := do
  let literal := textLiteral token.spelling.toList
  let formatted : Formatted := ⟨token, literal, place, marked⟩
  if literal.formatted then
    return (← formatted.pieces (2 * literal.content.length + 2) 0 literal.content).1
  else return [← formatted.decoded literal.content]

/-- The bytes of one literal. -/
def literalBytes (token : Token) : Reading (List Nat) := do
  let literal := textLiteral token.spelling.toList
  if literal.content.any fun char => 128 ≤ char.toNat then faultAtLast .bytesNotAscii
  match Escape.decodeBytes literal.raw literal.content with
  | .ok bytes => pure bytes
  | .error reason => faultAtLast (.badEscape reason)

/-- The pieces of adjacent literals that are all texts, or their bytes if they are all bytes. -/
def literalSum (place : Position) (marked inBytes : Bool) :
    List Token → Reading (List Piece × List Nat)
  | [] => pure ([], [])
  | token :: others => do
    let literal := textLiteral token.spelling.toList
    let alike := if literal.bytes = inBytes then pure () else faultAtLast .mixedBytes
    if literal.formatted then alike
    let here ← if literal.bytes then do pure (([] : List Piece), ← literalBytes token)
      else do pure (← literalPieces place marked token, ([] : List Nat))
    alike
    let (pieces, bytes) ← literalSum place marked inBytes others
    return (here.1 ++ pieces, here.2 ++ bytes)

/-- Adjacent text literals. -/
def texts : Reading SourceTree := do
  let tokens ← several (kind .text)
  let first := tokens.headD default
  let place := placeOf first
  let literals := tokens.map fun token => textLiteral token.spelling.toList
  let marked := first.spelling.toList.head? = some 'u'
  let inBytes := (literals.map (·.bytes)).headD false
  let (pieces, bytes) ← literalSum place marked inBytes tokens
  let formatted : Formatted := ⟨first, textLiteral first.spelling.toList, place, marked⟩
  if inBytes then return tree place (.constant (.bytes bytes)) []
  else if literals.any (·.formatted) then return formatted.joined pieces
  else
    let points := pieces.flatMap fun
      | .text points => points
      | .field _ => []
    return tree place (.constant (.text points marked)) []

end FormattedTexts

end Grammar

end IfChains
