/-
**Tokens of a source text.**

A token knows the line and the column it starts at (indentation and the end of the text have no
column of their own), the line and the column that the reader had come to when it was read, and how
many brackets were open behind it.
-/

namespace IfChains

/-- The kinds of tokens. -/
inductive TokenKind
  | name | keyword | number | text | operator | newline | indent | dedent | endOfText
deriving DecidableEq, Repr, Inhabited

/-- A token: its kind, its spelling, and where it stands. -/
structure Token where
  kind : TokenKind
  spelling : String
  line : Nat
  /-- The column in bytes, if the token has characters. -/
  column : Option Nat
  /-- The line that the token ends in. -/
  endLine : Nat
  /-- The column in bytes that the reader had reached behind the token. -/
  reached : Nat
  /-- The number of open brackets behind the token. -/
  depth : Nat
deriving DecidableEq, Repr, Inhabited

namespace Token

/-- The words that are no names. -/
def keywords : List String :=
  ["False", "None", "True", "and", "as", "assert", "async", "await", "break", "class", "continue",
    "def", "del", "elif", "else", "except", "finally", "for", "from", "global", "if", "import",
    "in", "is", "lambda", "nonlocal", "not", "or", "pass", "raise", "return", "try", "while",
    "with", "yield"]

/-- The names that begin a pattern-matching statement. -/
def softKeywords : List String := ["_", "case", "match"]

/-- Whether a token is a keyword or an operator with a given spelling. -/
def isMark (token : Token) (spelling : String) : Bool :=
  (token.kind == .keyword || token.kind == .operator) && token.spelling == spelling

/-- Whether a token is a name with a given spelling. -/
def isWord (token : Token) (spelling : String) : Bool :=
  token.kind == .name && token.spelling == spelling

/-- The column of a token, zero if it has none. -/
def start (token : Token) : Nat :=
  token.column.getD 0

end Token

end IfChains
