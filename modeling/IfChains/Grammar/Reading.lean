/-
**Reading phrases from tokens.**

A `Reading` takes tokens from the front of a text and may fail to match, in which case the next
alternative starts over from the same token. Tokens are read once and kept. A second reading of a
text that is no program also tries the rules that diagnose faults; a fault that is found ends the
whole reading.
-/

import IfChains.Grammar.Rule
import IfChains.Token.Lexer
import IfChains.Syntax.Tree

namespace IfChains

/-- Why a reading stops. -/
inductive Stop
  /-- The tokens do not match; another alternative may. -/
  | noMatch
  /-- The tokens do not match, and no other alternative of the rule is tried. -/
  | settled
  /-- A fault; `lexical` if the tokens themselves are at fault. -/
  | fault (failure : SyntaxFailure) (lexical : Bool)
deriving Repr

/-- What a rule came to at a token: its result and the token behind it, or no match. -/
structure Kept where
  rule : Rule
  result : Option (List SourceTree × Nat)

/-- Where a text stands, which decides how far places in it are counted in characters. -/
inductive Origin
  /-- In a file, whose line is looked at. -/
  | file
  /-- Nowhere else, so that the stretch which the reader of tokens holds is looked at. -/
  | loose
deriving DecidableEq, Repr

/-- The state of a reading. -/
structure ReadingState where
  lexer : Lexer
  /-- The whole text, for counting characters. -/
  text : List Char
  origin : Origin := .loose
  tokens : Array Token := #[]
  /-- The index of the next token. -/
  position : Nat := 0
  /-- The rules that diagnose faults are tried. -/
  diagnosing : Bool := false
  kept : Array (List Kept) := #[]
  /-- The line and the column that the text begins at, if it is a replacement field. -/
  field : Option Position := none
  /-- A bound on the number of repetitions of a phrase. -/
  bound : Nat

namespace ReadingState

/-- A reading of a text from its start. -/
def ofText (text : List Char) : ReadingState :=
  { lexer := Lexer.ofText text, text := text, bound := text.length + 2 }

/-- The results of the rules at a token. -/
def keptAt (state : ReadingState) (position : Nat) : List Kept :=
  state.kept.getD position []

/-- Remembers what a rule came to at a token. -/
def keep (state : ReadingState) (position : Nat) (entry : Kept) : ReadingState :=
  let table := state.kept ++ Array.replicate (position + 1 - state.kept.size) []
  { state with kept := table.modify position (entry :: ·) }

/-- The token read last. -/
def lastToken (state : ReadingState) : Token :=
  state.tokens.back?.getD default

/-- The state in which the same text is read again, to find out what is wrong with it. -/
def again (state : ReadingState) : ReadingState :=
  { state with position := 0, diagnosing := true, kept := #[] }

end ReadingState

/-- The rules as they can be called from within the grammar. -/
abbrev RuleTable := Rule → ReadingState → Except Stop (List SourceTree) × ReadingState

/-- A phrase of the grammar. -/
def Reading (α : Type) : Type :=
  RuleTable → ReadingState → Except Stop α × ReadingState

namespace Reading

variable {α β : Type}

instance : Monad Reading where
  pure value := fun _ state => (.ok value, state)
  bind first next := fun table state =>
    match first table state with
    | (.ok value, state) => next value table state
    | (.error stop, state) => (.error stop, state)

/-- Stops. -/
def stop (reason : Stop) : Reading α :=
  fun _ state => (.error reason, state)

/-- Does not match. -/
def noMatch : Reading α :=
  stop .noMatch

/-- Does not match, and rules out the other alternatives. -/
def settled : Reading α :=
  stop .settled

/-- The state. -/
def get : Reading ReadingState :=
  fun _ state => (.ok state, state)

/-- Changes the state. -/
def modify (change : ReadingState → ReadingState) : Reading Unit :=
  fun _ state => (.ok (), change state)

/-- The trees a rule reads. -/
def rule (name : Rule) : Reading (List SourceTree) :=
  fun table state => table name state

/-- The one tree a rule reads. -/
def one (name : Rule) : Reading SourceTree := do
  match ← rule name with
  | [tree] => pure tree
  | _ => noMatch

/-- Reads a phrase if it is there. -/
def attempt (phrase : Reading α) : Reading (Option α) :=
  fun table state =>
    match phrase table state with
    | (.ok value, state) => (.ok (some value), state)
    | (.error .noMatch, after) => (.ok none, { after with position := state.position })
    | (.error .settled, after) => (.ok none, { after with position := state.position })
    | (.error reason, after) => (.error reason, after)

/-- Reads the first of some phrases that is there. -/
def choice : List (Reading α) → Reading α
  | [] => noMatch
  | phrase :: others => fun table state =>
    match phrase table state with
    | (.ok value, state) => (.ok value, state)
    | (.error .noMatch, after) => choice others table { after with position := state.position }
    | (.error .settled, after) => (.error .noMatch, { after with position := state.position })
    | (.error reason, after) => (.error reason, after)

/-- A phrase whose absence rules out the other alternatives. -/
def committed (phrase : Reading α) : Reading α :=
  fun table state =>
    match phrase table state with
    | (.error .noMatch, after) => (.error .settled, after)
    | result => result

/-- Makes sure that a phrase follows, and reads nothing. -/
def ahead (phrase : Reading α) : Reading Unit :=
  fun table state =>
    match phrase table state with
    | (.ok _, after) => (.ok (), { after with position := state.position })
    | (.error reason, after) => (.error reason, { after with position := state.position })

/-- Makes sure that a phrase does not follow, and reads nothing. -/
def notAhead (phrase : Reading α) : Reading Unit := do
  match ← attempt (ahead phrase) with
  | some _ => noMatch
  | none => pure ()

/-- Reads a phrase as often as it is there, up to a bound. -/
def repeated (phrase : Reading α) : Nat → Reading (List α)
  | 0 => pure []
  | bound + 1 => do
    match ← attempt phrase with
    | some value => return value :: (← repeated phrase bound)
    | none => return []

/-- Reads a phrase as often as it is there. -/
def many (phrase : Reading α) : Reading (List α) := do
  repeated phrase (← get).bound

/-- Reads a phrase as often as it is there, at least once. -/
def several (phrase : Reading α) : Reading (List α) := do
  return (← phrase) :: (← many phrase)

/-- Goes on from a value as often as a phrase is there, up to a bound. -/
def grownWithin (step : α → Reading α) : Nat → α → Reading α
  | 0, value => pure value
  | bound + 1, value => do
    match ← attempt (step value) with
    | some larger => grownWithin step bound larger
    | none => return value

/-- Goes on from a value as often as a phrase is there. -/
def grown (step : α → Reading α) (value : α) : Reading α := do
  grownWithin step (← get).bound value

/-- Reads a phrase at least once, with separators between. -/
def separated (separator : Reading β) (phrase : Reading α) : Reading (List α) := do
  return (← phrase) :: (← many (do let _ ← separator; phrase))

/-- The number of characters in some bytes of a text; its end counts for one. -/
def charactersIn : (bytes : Nat) → List Char → Nat
  | 0, _ => 0
  | _, [] => 1
  | bytes + 1, char :: rest => 1 + charactersIn (bytes + 1 - char.utf8Size) rest

/-- The characters in the first bytes of a text; one that is cut off is a replacement mark. -/
def firstBytes : (bytes : Nat) → List Char → List Char
  | 0, _ => []
  | _, [] => []
  | bytes + 1, char :: rest =>
    if bytes + 1 < char.utf8Size then ['\uFFFD']
    else char :: firstBytes (bytes + 1 - char.utf8Size) rest

/-- A line of a text, from its number. -/
def lineOf : (line : Nat) → List Char → List Char
  | 0, text => text
  | 1, text => text
  | _ + 2, [] => []
  | line + 2, char :: rest => if char = '\n' then lineOf (line + 1) rest else lineOf (line + 2) rest

/-- The first lines of a text, each with its line break. -/
def linesOf : (count : Nat) → List Char → List Char
  | 0, _ => []
  | _, [] => []
  | count + 1, char :: rest =>
    char :: if char = '\n' then linesOf count rest else linesOf (count + 1) rest

/-- The text in which a place is counted: the beginning of its line in a file; else what the reader
of tokens holds if it has not gone past that line, and the line alone if it has. -/
def stretchAt (state : ReadingState) (line : Nat) : List Char :=
  match state.origin, lineOf line state.text with
  | .file, char :: rest => firstBytes 999 (linesOf 1 (char :: rest))
  | _, rest =>
    let lexer := state.lexer
    if lexer.line ≤ line && 0 < lexer.line then
      linesOf (lexer.line + 1 - lexer.heldFrom) (lineOf lexer.heldFrom state.text)
    else rest.takeWhile (· != '\n')

/-- A failure at a line, behind a number of bytes; a replacement field counts in bytes. -/
def failureAt (state : ReadingState) (fault : SyntaxFault) (line offset : Nat) : SyntaxFailure :=
  match state.field with
  | some start => ⟨.inField fault, line, offset - start.column - 1⟩
  | none => ⟨fault, line, charactersIn offset (stretchAt state line) - 1⟩

/-- Raises a fault. -/
def raise (failure : SyntaxFailure) : Reading α :=
  stop (.fault failure false)

/-- Reports a fault at a place. -/
def faultAt (place : Position) (fault : SyntaxFault) : Reading α := do
  raise (failureAt (← get) fault place.line (place.column + 1))

/-- The failure of a fault that is reported at the token read last. -/
def failureAtLast (state : ReadingState) (fault : SyntaxFault) : SyntaxFailure :=
  let token := state.lastToken
  failureAt state fault token.line (token.column.elim token.reached (· + 1))

/-- Reports a fault at the token read last. -/
def faultAtLast (fault : SyntaxFault) : Reading α := do
  raise (failureAtLast (← get) fault)

/-- The failure of a text that ends inside a bracket. -/
def neverClosed (state : ReadingState) (lexer : Lexer) : SyntaxFailure :=
  match lexer.brackets with
  | bracket :: _ => failureAt state (.neverClosed bracket.char) bracket.line (bracket.column + 1)
  | [] => failureAtLast state .unexpectedEnd

/-- The failure when no token can be read. -/
def lexicalFailure (state : ReadingState) (reason : LexicalStop) (lexer : Lexer) : SyntaxFailure :=
  match reason with
  | .placed failure => failure
  | .openAtEnd => neverClosed state lexer
  | .here fault => failureAt state fault lexer.line lexer.column
  | .atLineStart fault => failureAt state fault lexer.line 1
  | .afterContinuation => failureAt state .afterContinuation lexer.line lexer.held

/-- A token moved to where a replacement field stands in its text, if it ends in the first line of
the field. -/
def relocate (field : Option Position) (token : Token) : Token :=
  match field with
  | some start =>
    if token.endLine = start.line then
      { token with
        column := token.column.map (· + start.column)
        reached := token.reached + start.column }
    else token
  | none => token

/-- The next token, which stays the next one. -/
def peek : Reading Token :=
  fun _ state =>
    match state.tokens[state.position]? with
    | some token => (.ok token, state)
    | none =>
      match state.lexer.next with
      | .ok (token, lexer) =>
        let token := relocate state.field token
        (.ok token, { state with lexer := lexer, tokens := state.tokens.push token })
      | .error (reason, lexer) =>
        let state := { state with lexer := lexer }
        (.error (.fault (lexicalFailure state reason lexer) true), state)

/-- Reads a token that satisfies a condition. -/
def tokenThat (condition : Token → Bool) : Reading Token := do
  let token ← peek
  if condition token then
    modify fun state => { state with position := state.position + 1 }
    return token
  else noMatch

/-- Reads a keyword or an operator. -/
def mark (spelling : String) : Reading Token :=
  tokenThat fun token => token.isMark spelling

/-- Reads one of some keywords or operators. -/
def markOf (spellings : List String) : Reading Token :=
  tokenThat fun token => spellings.any token.isMark

/-- Reads a name with a given spelling. -/
def word (spelling : String) : Reading Token :=
  tokenThat fun token => token.isWord spelling

/-- Reads a token of a kind. -/
def kind (kind : TokenKind) : Reading Token :=
  tokenThat fun token => token.kind == kind

/-- Reads a keyword or an operator; another token in its place is a fault. -/
def due (spelling : String) : Reading Token := do
  match ← attempt (mark spelling) with
  | some token => pure token
  | none =>
    let token ← peek
    raise (failureAt (← get) (.expected spelling) token.line (token.column.elim 0 (· + 1)))

/-- The place of the next token. -/
def place : Reading Position := do
  let token ← peek
  return ⟨token.line, token.start⟩

/-- The place of a token. -/
def placeOf (token : Token) : Position :=
  ⟨token.line, token.start⟩

/-- A rule that is tried only when faults are diagnosed. -/
def diagnosis (phrase : Reading α) : Reading α := do
  if (← get).diagnosing then phrase else noMatch

/-- The column in bytes that a tree ends at which has just been read, given the number of the first
token read. The parentheses around a tree do not belong to it. -/
def endOf (first : Nat) (tree : SourceTree) : Reading Nat :=
  fun _ state =>
    let tokens := (state.tokens.extract first state.position).toList
    let around := tokens.takeWhile fun token => token.isMark "(" && tree.tag != placeOf token
    (.ok ((tokens.reverse.drop around.length).headD default).reached, state)

/-- The token before the next one. -/
def previous : Reading Token :=
  fun _ state => (.ok (state.tokens.getD (state.position - 1) default), state)

/-- Reads a phrase without diagnosing faults in it. -/
def undiagnosed (phrase : Reading α) : Reading α :=
  fun table state =>
    let (result, after) := phrase table { state with diagnosing := false }
    (result, { after with diagnosing := state.diagnosing })

/-- Remembers the result of a rule. -/
def remembered (name : Rule) (phrase : Reading (List SourceTree)) : Reading (List SourceTree) :=
  fun table state =>
    match (state.keptAt state.position).find? fun entry => entry.rule = name with
    | some ⟨_, some (trees, position)⟩ => (.ok trees, { state with position := position })
    | some ⟨_, none⟩ => (.error .noMatch, state)
    | none =>
      match phrase table state with
      | (.ok trees, after) =>
        (.ok trees, after.keep state.position ⟨name, some (trees, after.position)⟩)
      | (.error (.fault failure lexical), after) => (.error (.fault failure lexical), after)
      | (.error _, after) =>
        (.error .noMatch,
          { after.keep state.position ⟨name, none⟩ with position := state.position })

end Reading

end IfChains
