/-
**What is wrong with a text that is no program.**

A text is read twice if need be. The second reading tries the rules that diagnose faults. If it
finds none, the fault is that the syntax is invalid at the farthest token of the first reading. A
fault in the tokens of the rest of the text takes precedence over one found in phrases, and so does
a bracket left open on an earlier line.
-/

import IfChains.Grammar.Reading

namespace IfChains

namespace Reading

variable {α : Type}

/-- Reads the rest of the tokens, up to a bound, and says why that fails. -/
def exhaust : (fuel : Nat) → Lexer → Option (LexicalStop × Lexer)
  | 0, _ => none
  | fuel + 1, lexer =>
    match lexer.next with
    | .error stop => some stop
    | .ok (token, lexer) => if token.kind = .endOfText then none else exhaust fuel lexer

/-- A failure, unless the rest of the text holds one that takes precedence. -/
def outweighed (state : ReadingState) (failure : SyntaxFailure) : SyntaxFailure :=
  match exhaust (2 * state.lexer.rest.length + state.lexer.indents.length + 2) state.lexer with
  | some (.placed other, _) => other
  | some (_, lexer) =>
    match lexer.brackets with
    | bracket :: _ =>
      if bracket.line < state.lastToken.line then
        neverClosed { state with lexer := lexer } lexer
      else failure
    | [] => failure
  | none => failure

/-- The failure that a second reading has come to, given the farthest token of the first one. -/
def conclude (farthest : Token) (state : ReadingState) : Stop → SyntaxFailure
  | .fault failure lexical => if lexical then failure else outweighed state failure
  | _ =>
    match farthest.kind with
    | .indent => failureAtLast state .unexpectedIndent
    | .dedent => failureAtLast state .unexpectedUnindent
    | _ =>
      outweighed state
        (failureAt state .invalidSyntax farthest.line (farthest.column.elim 0 (· + 1)))

/-- Reads a whole text, a second time if it is no program. -/
def whole (phrase : Reading α) (table : RuleTable) (start : ReadingState) :
    Except SyntaxFailure α :=
  match phrase table start with
  | (.ok value, _) => .ok value
  | (.error (.fault failure lexical), state) =>
    .error (conclude state.lastToken state (.fault failure lexical))
  | (.error _, state) =>
    match phrase table state.again with
    | (.ok _, second) => .error (conclude state.lastToken second .noMatch)
    | (.error stop, second) => .error (conclude state.lastToken second stop)

end Reading

end IfChains
