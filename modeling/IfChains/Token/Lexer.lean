/-
**Reading tokens.**

`Lexer.next` reads one token: it measures the indentation of a line, skips blanks and comments,
joins lines that end in a backslash or stand inside brackets, and finds the longest number, name,
text or operator. Indentation becomes `indent` and `dedent` tokens; blank lines leave no trace.

A line counts as begun once its first character is looked at, so that the end of the text belongs to
its last line.
-/

import IfChains.Token
import IfChains.Token.Number
import IfChains.Text.Quoted

namespace IfChains

/-- A bracket that is still open: its character, its line, and its column in bytes. -/
structure OpenBracket where
  char : Char
  line : Nat
  column : Nat
deriving DecidableEq, Repr

/-- A reader of tokens in the middle of a text. -/
structure Lexer where
  /-- The text that is still to be read. -/
  rest : List Char
  line : Nat := 0
  /-- The number of bytes read of the line. -/
  column : Nat := 0
  /-- The number of characters read of the line. -/
  chars : Nat := 0
  /-- The line that the stretch of text begins at which the reader holds: the present one, unless a
  token or a line continuation has led here. -/
  heldFrom : Nat := 0
  /-- The number of bytes read of that stretch. -/
  held : Nat := 0
  /-- The character last read ended its line. -/
  lineDone : Bool := true
  /-- The next token begins a line, so that its indentation counts. -/
  atStart : Bool := true
  /-- The indentations in force, the innermost first, with tabs to eight and to one column. -/
  indents : List (Nat × Nat) := [(0, 0)]
  /-- Indents (if positive) or dedents (if negative) that are due. -/
  pending : Int := 0
  brackets : List OpenBracket := []
deriving Repr

/-- Why no token can be read. -/
inductive LexicalStop
  /-- A fault at a fixed place. -/
  | placed (failure : SyntaxFailure)
  /-- The text ends inside brackets. -/
  | openAtEnd
  /-- A fault reported at the place the reader has come to. -/
  | here (fault : SyntaxFault)
  /-- A fault reported at the beginning of the line. -/
  | atLineStart (fault : SyntaxFault)
  /-- A character follows a line continuation; the place is counted in the stretch of text that the
  reader holds. -/
  | afterContinuation
deriving Repr

namespace Lexer

/-- A reader at the beginning of a text. -/
def ofText (text : List Char) : Lexer :=
  { rest := text }

/-- The number of open brackets. -/
def depth (lexer : Lexer) : Nat :=
  lexer.brackets.length

/-- Begins the next line if the last one is done and there is another one. -/
def refill (fresh : Bool) (lexer : Lexer) : Lexer :=
  if lexer.lineDone && !lexer.rest.isEmpty then
    { lexer with
      line := lexer.line + 1
      column := 0
      chars := 0
      heldFrom := if fresh then lexer.line + 1 else lexer.heldFrom
      held := if fresh then 0 else lexer.held
      lineDone := false }
  else lexer

/-- Reads a given character. -/
def step (fresh : Bool) (lexer : Lexer) (char : Char) : Lexer :=
  let lexer := lexer.refill fresh
  { lexer with
    rest := lexer.rest.tail
    column := lexer.column + char.utf8Size
    chars := lexer.chars + 1
    held := lexer.held + char.utf8Size
    lineDone := char == '\n' }

/-- Reads some characters. -/
def skip (lexer : Lexer) (text : List Char) : Lexer :=
  text.foldl (step false) lexer

/-- Reads a number of characters. -/
def advance (lexer : Lexer) (count : Nat) : Lexer :=
  lexer.skip (lexer.rest.take count)

/-- A fault reported behind a number of characters of the line. -/
def fail (lexer : Lexer) (fault : SyntaxFault) (chars : Nat) : LexicalStop :=
  .placed ⟨fault, lexer.line, chars - 1⟩

/-- The token between two states of the reader. -/
def tokenTo (start finish : Lexer) (kind : TokenKind) (spelling : List Char) : Token :=
  { kind := kind
    spelling := String.ofList spelling
    line := start.line
    column := some start.column
    endLine := finish.line
    reached := finish.column
    depth := finish.depth }

/-- A token without characters. -/
def mark (lexer : Lexer) (kind : TokenKind) : Token :=
  { kind := kind
    spelling := ""
    line := lexer.line
    column := none
    endLine := lexer.line
    reached := lexer.column
    depth := lexer.depth }

/-- Goes to the end of the line. -/
def toLineEnd (lexer : Lexer) : Lexer :=
  let run := lexer.rest.takeWhile (· != '\n')
  lexer.advance (run.length + 1)

/-- Behind a backslash: the line break it hides, and a look at the line that follows. -/
def continuation (fresh : Bool) (lexer : Lexer) : Except (LexicalStop × Lexer) Lexer :=
  match lexer.rest with
  | '\n' :: _ =>
    let lexer := lexer.step fresh '\n'
    if lexer.rest.isEmpty then
      .error (if lexer.brackets.isEmpty then .here .unexpectedEnd else .openAtEnd, lexer)
    else .ok (lexer.refill fresh)
  | char :: _ =>
    .error (.afterContinuation, lexer.step fresh char)
  | [] => .error (.afterContinuation, lexer)

/-- The indentation at the start of a line: with tabs to eight, with tabs to one, and the first
indentation before a backslash, zero if there is none. -/
def indentation : (fuel : Nat) → Lexer → (column alternative split : Nat) →
    Except (LexicalStop × Lexer) (Lexer × Nat × Nat × Nat)
  | 0, lexer, column, alternative, split => .ok (lexer, column, alternative, split)
  | fuel + 1, lexer, column, alternative, split =>
    let lexer := lexer.refill true
    match lexer.rest with
    | ' ' :: _ => indentation fuel (lexer.step true ' ') (column + 1) (alternative + 1) split
    | '\t' :: _ =>
      indentation fuel (lexer.step true '\t') ((column / 8 + 1) * 8) (alternative + 1) split
    | '\x0c' :: _ => indentation fuel (lexer.step true '\x0c') 0 0 split
    | '\\' :: _ => do
      let split := if split = 0 then column else split
      let lexer ← (lexer.step true '\\').continuation true
      indentation fuel lexer column alternative split
    | _ => .ok (lexer, column, alternative, split)

/-- Drops the indentations deeper than a column, and counts them. -/
def dropIndents (column : Nat) : List (Nat × Nat) → List (Nat × Nat) × Nat
  | (indent, alternative) :: rest =>
    if column < indent && !rest.isEmpty then
      let (kept, count) := dropIndents column rest
      (kept, count + 1)
    else ((indent, alternative) :: rest, 0)
  | [] => ([], 0)

/-- Compares the indentation of a line with those in force. -/
def settle (lexer : Lexer) (column alternative : Nat) : Except (LexicalStop × Lexer) Lexer :=
  let tabs := (LexicalStop.atLineStart .inconsistentTabs, lexer.toLineEnd)
  match lexer.indents with
  | [] => .ok lexer
  | (indent, other) :: outer =>
    if column = indent then
      if alternative = other then .ok lexer else .error tabs
    else if indent < column then
      if 100 ≤ lexer.indents.length then .error (.atLineStart .tooManyIndents, lexer.toLineEnd)
      else if alternative ≤ other then .error tabs
      else .ok { lexer with
        pending := lexer.pending + 1, indents := (column, alternative) :: lexer.indents }
    else
      let (kept, count) := dropIndents column ((indent, other) :: outer)
      let lexer := { lexer with pending := lexer.pending - count, indents := kept }
      match kept with
      | (indent, other) :: _ =>
        if column ≠ indent then .error (.here .unindentMismatch, lexer.toLineEnd)
        else if alternative ≠ other then .error tabs
        else .ok lexer
      | [] => .ok lexer

/-- The number of characters up to the closing quotes of a text, and whether they were found. The
quotes seen last are counted in `seen`. -/
def textExtent (quote : Char) (size : Nat) (seen : Nat) (count : Nat) : List Char → Nat × Bool
  | [] => (count, false)
  | '\\' :: [] => (count + 1, false)
  | '\\' :: _ :: rest => textExtent quote size 0 (count + 2) rest
  | char :: rest =>
    if char = '\n' && size = 1 then (count + 1, false)
    else if char = quote then
      if seen + 1 = size then (count + 1, true)
      else textExtent quote size (seen + 1) (count + 1) rest
    else textExtent quote size 0 (count + 1) rest

/-- The letters before the quotes of a text literal. -/
def textMarks : List String :=
  ["", "b", "r", "u", "f", "br", "rb", "fr", "rf"]

/-- The number of letters before the quotes of a text literal, if one begins here. -/
def textMark (text : List Char) : Option Nat :=
  let letters := text.takeWhile Char.isAlpha
  match text.drop letters.length with
  | quote :: _ =>
    if (quote = '"' || quote = '\'') &&
        textMarks.contains (String.ofList (letters.map Char.toLower)) then
      some letters.length
    else none
  | [] => none

/-- Reads a text literal whose quotes stand behind some letters. -/
def text (lexer : Lexer) (letters : Nat) : Except (LexicalStop × Lexer) (Token × Lexer) :=
  let body := lexer.rest.drop letters
  match body with
  | quote :: rest =>
    let size := if rest.take 2 = [quote, quote] then 3 else 1
    let (count, found) := if rest.take 1 = [quote] && size = 1 then (letters + 2, true)
      else textExtent quote size 0 (letters + size) (body.drop size)
    let finish := lexer.advance count
    if found then .ok (lexer.tokenTo finish .text (lexer.rest.take count), finish)
    else
      let fault := if size = 3 then SyntaxFault.unterminatedTripleText finish.line
        else SyntaxFault.unterminatedText finish.line
      .error (lexer.fail fault (lexer.chars + 1), finish)
  | [] => .error (lexer.fail .invalidSyntax 0, lexer)

/-- Whether a character can begin a name, as far as the reader can tell. -/
def mayStartName (char : Char) : Bool :=
  char.isAlpha || char == '_' || 128 ≤ char.toNat

/-- The index of the first character that cannot stand in a name. -/
def misfit : List Char → Option Nat
  | [] => none
  | first :: rest =>
    if CodePoints.isNameStart first.toNat then
      (rest.findIdx? fun char => !CodePoints.isNameContinue char.toNat).map (· + 1)
    else some 0

/-- Reads a name or a keyword. -/
def name (lexer : Lexer) : Except (LexicalStop × Lexer) (Token × Lexer) :=
  let spelling := lexer.rest.takeWhile Number.isNameChar
  let finish := lexer.skip spelling
  let found := if spelling.all fun char => char.toNat < 128 then none else misfit spelling
  match found with
  | some index =>
    let point := (spelling.getD index ' ').toNat
    let fault := if CodePoints.isPrintable point then SyntaxFault.invalidCharacter point
      else SyntaxFault.nonPrintable point
    .error (lexer.fail fault (lexer.chars + index + 1), finish)
  | none =>
    let kind := if Token.keywords.contains (String.ofList spelling) then TokenKind.keyword
      else TokenKind.name
    .ok (lexer.tokenTo finish kind spelling, finish)

/-- Reads a number. -/
def number (lexer : Lexer) : Except (LexicalStop × Lexer) (Token × Lexer) :=
  match Number.extent lexer.rest with
  | .ok count =>
    let finish := lexer.advance count
    .ok (lexer.tokenTo finish .number (lexer.rest.take count), finish)
  | .error misfit =>
    let before := if misfit.fault = .leadingZeros then lexer.column else lexer.chars
    .error (lexer.fail misfit.fault (before + misfit.count), lexer.advance misfit.count)

/-- The operators of three and of two characters. -/
def longOperators : List String :=
  ["...", "**=", "//=", "<<=", ">>=", "!=", "%=", "&=", "**", "*=", "+=", "-=", "->", "/=", "//",
    ":=", "<<", "<=", "<>", "==", ">=", ">>", "@=", "^=", "|="]

/-- The bracket that closes an opening one. -/
def partner : Char → Char
  | '(' => ')'
  | '[' => ']'
  | _ => '}'

/-- Reads a bracket or another mark of one character. -/
def markOf (lexer : Lexer) (char : Char) : Except (LexicalStop × Lexer) (Token × Lexer) :=
  let finish := lexer.step false char
  let fault := fun fault => (Except.error (lexer.fail fault finish.chars, finish) :
    Except (LexicalStop × Lexer) (Token × Lexer))
  let done := fun (finish : Lexer) =>
    (Except.ok (lexer.tokenTo finish .operator [char], finish) :
      Except (LexicalStop × Lexer) (Token × Lexer))
  if char = '(' || char = '[' || char = '{' then
    if 200 ≤ lexer.depth then fault .tooManyBrackets
    else done { finish with brackets := ⟨char, lexer.line, lexer.column⟩ :: lexer.brackets }
  else if char = ')' || char = ']' || char = '}' then
    match lexer.brackets with
    | [] => fault (.unmatched char)
    | opening :: outer =>
      if partner opening.char = char then done { finish with brackets := outer }
      else
        let line := if opening.line = lexer.line then none else some opening.line
        let closed := { finish with brackets := outer }
        .error (lexer.fail (.mismatched char opening.char line) finish.chars, closed)
  else if CodePoints.isPrintable char.toNat then done finish
  else fault (.nonPrintable char.toNat)

/-- Reads an operator or another mark. -/
def operator (lexer : Lexer) (char : Char) : Except (LexicalStop × Lexer) (Token × Lexer) :=
  match longOperators.find? fun long => long.toList.isPrefixOf lexer.rest with
  | some long =>
    let finish := lexer.skip long.toList
    .ok (lexer.tokenTo finish .operator long.toList, finish)
  | none => lexer.markOf char

/-- Whether a character is a blank within a line. -/
def isBlank (char : Char) : Bool :=
  char == ' ' || char == '\t' || char == '\x0c'

/-- What reading within a line comes to: a token, or the start of another line. -/
inductive Outcome
  | token (token : Token) (lexer : Lexer)
  | newLine (lexer : Lexer)

/-- Reads on within a logical line. A line break counts only outside brackets and behind a token. -/
def within (blankLine : Bool) : (fuel : Nat) → Lexer → Except (LexicalStop × Lexer) Outcome
  | 0, lexer => .ok (.token (lexer.mark .endOfText) lexer)
  | fuel + 1, lexer =>
    let lexer := lexer.skip (lexer.rest.takeWhile isBlank)
    let start := lexer
    let lexer := match lexer.rest with
      | '#' :: _ => lexer.skip (lexer.rest.takeWhile (· != '\n'))
      | _ => lexer
    match lexer.rest with
    | [] =>
      if lexer.brackets.isEmpty then .ok (.token (lexer.mark .endOfText) lexer)
      else .error (.openAtEnd, lexer)
    | '\n' :: _ =>
      let finish := { lexer.step false '\n' with atStart := true }
      if blankLine || !lexer.brackets.isEmpty then .ok (.newLine finish)
      else .ok (.token (start.tokenTo finish .newline []) finish)
    | '\\' :: _ => do
      let lexer ← (lexer.step false '\\').continuation false
      within blankLine fuel lexer
    | char :: rest =>
      let read := match textMark lexer.rest with
        | some letters => lexer.text letters
        | none =>
          if mayStartName char then lexer.name
          else if char.isDigit || (char = '.' && (rest.head?.map Char.isDigit).getD false) then
            lexer.number
          else lexer.operator char
      read.map fun result => .token result.1 result.2

/-- Reads the start of a line, if the reader is at one: whether the line is blank. -/
def beginLine (lexer : Lexer) : Except (LexicalStop × Lexer) (Lexer × Bool) :=
  if lexer.atStart then do
    let start := { lexer with atStart := false }
    let (lexer, column, alternative, split) ← indentation (start.rest.length + 1) start 0 0 0
    let blank := lexer.rest.head? == some '#' || lexer.rest.head? == some '\n'
    if blank || !lexer.brackets.isEmpty then return (lexer, blank)
    let lexer ← lexer.settle (if split = 0 then column else split)
      (if split = 0 then alternative else split)
    return (lexer, blank)
  else return (lexer, false)

/-- Reads tokens line by line until there is one. -/
def nextWithin : (fuel : Nat) → Lexer → Except (LexicalStop × Lexer) (Token × Lexer)
  | 0, lexer => .ok (lexer.mark .endOfText, lexer)
  | fuel + 1, lexer => do
    let (lexer, blank) ← lexer.beginLine
    if lexer.pending < 0 then
      let lexer := { lexer with pending := lexer.pending + 1 }
      return (lexer.mark .dedent, lexer)
    if 0 < lexer.pending then
      let lexer := { lexer with pending := lexer.pending - 1 }
      return (lexer.mark .indent, lexer)
    match ← within blank (lexer.rest.length + 1) lexer with
    | .token token lexer => return (token, lexer)
    | .newLine lexer => nextWithin fuel lexer

/-- Reads one token; a fault leaves the reader where it was found. -/
def next (lexer : Lexer) : Except (LexicalStop × Lexer) (Token × Lexer) :=
  nextWithin (lexer.rest.length + 2) lexer

/-- The text with every line break a line feed. -/
def unifyBreaks : List Char → List Char
  | '\r' :: '\n' :: rest => '\n' :: unifyBreaks rest
  | '\r' :: rest => '\n' :: unifyBreaks rest
  | char :: rest => char :: unifyBreaks rest
  | [] => []

/-- The text as lines that each end in a line feed; an empty line follows a text that ends in a
carriage return and a line feed. -/
def asLines (text : List Char) : List Char :=
  let unified := unifyBreaks text
  if text.getLast? = some '\n' && text.dropLast.getLast? = some '\r' then unified ++ ['\n']
  else if unified.getLast? = some '\n' then unified
  else unified ++ ['\n']

end Lexer

end IfChains
