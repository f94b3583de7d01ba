/-
**What can be wrong with a source text.**

Each way in which a text fails to be a program is a `SyntaxFault`; `SyntaxFault.message` words it.
A `SyntaxFailure` is a fault with the place it is reported at, the column counted in characters.
-/

import IfChains.Numeral.Whole

namespace IfChains

/-- The kinds of number literals. -/
inductive NumberKind
  | decimal | hexadecimal | octal | binary | imaginary
deriving DecidableEq, Repr

namespace NumberKind

/-- The word for a kind of number. -/
def word : NumberKind → String
  | decimal => "decimal"
  | hexadecimal => "hexadecimal"
  | octal => "octal"
  | binary => "binary"
  | imaginary => "imaginary"

end NumberKind

/-- The statements that a block has to follow. -/
inductive BlockOpener
  | ifHead | elifHead | elseHead | whileHead | forHead | withHead | tryHead | exceptHead
  | exceptStarHead | finallyHead | matchHead | caseHead | functionHead | classHead
deriving DecidableEq, Repr

namespace BlockOpener

/-- The phrase for a statement that a block has to follow. -/
def phrase : BlockOpener → String
  | ifHead => "'if' statement"
  | elifHead => "'elif' statement"
  | elseHead => "'else' statement"
  | whileHead => "'while' statement"
  | forHead => "'for' statement"
  | withHead => "'with' statement"
  | tryHead => "'try' statement"
  | exceptHead => "'except' statement"
  | exceptStarHead => "'except*' statement"
  | finallyHead => "'finally' statement"
  | matchHead => "'match' statement"
  | caseHead => "'case' statement"
  | functionHead => "function definition"
  | classHead => "class definition"

end BlockOpener

/-- The ways in which a text is no program. -/
inductive SyntaxFault
  -- characters and tokens
  | invalidCharacter (point : Nat)
  | nonPrintable (point : Nat)
  | invalidNumber (kind : NumberKind)
  | invalidDigit (digit : Char) (kind : NumberKind)
  | leadingZeros
  | tooManyDigits (count : Nat)
  | unterminatedText (line : Nat)
  | unterminatedTripleText (line : Nat)
  | afterContinuation
  | unexpectedEnd
  | unindentMismatch
  | inconsistentTabs
  | tooManyIndents
  | tooManyBrackets
  | unmatched (bracket : Char)
  | mismatched (closing opening : Char) (line : Option Nat)
  | neverClosed (bracket : Char)
  -- texts
  | bytesNotAscii
  | mixedBytes
  | badEscape (reason : String)
  | fieldFault (reason : String)
  -- phrases
  | invalidSyntax
  | unexpectedIndent
  | unexpectedUnindent
  | expected (token : String)
  | expectedBlock
  | expectedBlockAfter (opener : BlockOpener) (line : Nat)
  | expectedHandler
  | bothHandlers
  | expectedExceptionTypes
  | unparenthesizedExceptions
  | trailingComma
  | forgotComma
  | expectedElse
  | missingCallParentheses (name : String)
  | cannotAssign (what : String)
  | cannotAssignHere (what : String)
  | cannotDelete (what : String)
  | equalSignMeant
  | namedTarget (what : String)
  | annotationTarget (what : String)
  | illegalAnnotationTarget
  | assignToYield
  | illegalAugmented (what : String)
  | unpackingInComprehension
  | unparenthesizedTarget
  | dictUnpackingInComprehension
  | unparenthesizedGenerator
  | unpackingAfterKeywords
  | positionalAfterKeyword
  | positionalAfterUnpacking
  | keywordExpression
  | starredHere
  | doubleStarredHere
  | colonAfterKey
  | starredValue
  | valueAfterColon
  | parameterFault (reason : String)
  | captureUnderscore
  | invalidPatternTarget
  | positionalPatternAfterKeyword
  /-- A fault in the expression of a replacement field. -/
  | inField (fault : SyntaxFault)
deriving DecidableEq, Repr

namespace SyntaxFault

/-- A code point in the usual notation: at least four hexadecimal digits. -/
def codePoint (point : Nat) : String :=
  let digits := (Nat.toDigits 16 point).map Char.toUpper
  String.ofList (List.replicate (4 - digits.length) '0' ++ digits)

/-- The wording of a fault. -/
def message : SyntaxFault → String
  | invalidCharacter point =>
    "invalid character '" ++ String.singleton (Char.ofNat point) ++ "' (U+" ++ codePoint point ++
      ")"
  | nonPrintable point => "invalid non-printable character U+" ++ codePoint point
  | invalidNumber kind => "invalid " ++ kind.word ++ " literal"
  | invalidDigit digit kind =>
    "invalid digit '" ++ String.singleton digit ++ "' in " ++ kind.word ++ " literal"
  | leadingZeros =>
    "leading zeros in decimal integer literals are not permitted; " ++
      "use an 0o prefix for octal integers"
  | tooManyDigits count =>
    Whole.limitReport (some count) ++
      " - Consider hexadecimal for huge integer literals to avoid decimal conversion limits."
  | unterminatedText line =>
    "unterminated string literal (detected at line " ++ toString line ++ ")"
  | unterminatedTripleText line =>
    "unterminated triple-quoted string literal (detected at line " ++ toString line ++ ")"
  | afterContinuation => "unexpected character after line continuation character"
  | unexpectedEnd => "unexpected EOF while parsing"
  | unindentMismatch => "unindent does not match any outer indentation level"
  | inconsistentTabs => "inconsistent use of tabs and spaces in indentation"
  | tooManyIndents => "too many levels of indentation"
  | tooManyBrackets => "too many nested parentheses"
  | unmatched bracket => "unmatched '" ++ String.singleton bracket ++ "'"
  | mismatched closing opening line =>
    "closing parenthesis '" ++ String.singleton closing ++
      "' does not match opening parenthesis '" ++ String.singleton opening ++ "'" ++
      line.elim "" fun line => " on line " ++ toString line
  | neverClosed bracket => "'" ++ String.singleton bracket ++ "' was never closed"
  | bytesNotAscii => "bytes can only contain ASCII literal characters"
  | mixedBytes => "cannot mix bytes and nonbytes literals"
  | badEscape reason => reason
  | fieldFault reason => "f-string" ++ reason
  | invalidSyntax => "invalid syntax"
  | unexpectedIndent => "unexpected indent"
  | unexpectedUnindent => "unexpected unindent"
  | expected token => "expected '" ++ token ++ "'"
  | expectedBlock => "expected an indented block"
  | expectedBlockAfter opener line =>
    "expected an indented block after " ++ opener.phrase ++ " on line " ++ toString line
  | expectedHandler => "expected 'except' or 'finally' block"
  | bothHandlers => "cannot have both 'except' and 'except*' on the same 'try'"
  | expectedExceptionTypes => "expected one or more exception types"
  | unparenthesizedExceptions => "multiple exception types must be parenthesized"
  | trailingComma => "trailing comma not allowed without surrounding parentheses"
  | forgotComma => "invalid syntax. Perhaps you forgot a comma?"
  | expectedElse => "expected 'else' after 'if' expression"
  | missingCallParentheses name =>
    "Missing parentheses in call to '" ++ name ++ "'. Did you mean " ++ name ++ "(...)?"
  | cannotAssign what => "cannot assign to " ++ what
  | cannotAssignHere what =>
    "cannot assign to " ++ what ++ " here. Maybe you meant '==' instead of '='?"
  | cannotDelete what => "cannot delete " ++ what
  | equalSignMeant => "invalid syntax. Maybe you meant '==' or ':=' instead of '='?"
  | namedTarget what => "cannot use assignment expressions with " ++ what
  | annotationTarget what => "only single target (not " ++ what ++ ") can be annotated"
  | illegalAnnotationTarget => "illegal target for annotation"
  | assignToYield => "assignment to yield expression not possible"
  | illegalAugmented what => "'" ++ what ++ "' is an illegal expression for augmented assignment"
  | unpackingInComprehension => "iterable unpacking cannot be used in comprehension"
  | unparenthesizedTarget => "did you forget parentheses around the comprehension target?"
  | dictUnpackingInComprehension => "dict unpacking cannot be used in dict comprehension"
  | unparenthesizedGenerator => "Generator expression must be parenthesized"
  | unpackingAfterKeywords => "iterable argument unpacking follows keyword argument unpacking"
  | positionalAfterKeyword => "positional argument follows keyword argument"
  | positionalAfterUnpacking => "positional argument follows keyword argument unpacking"
  | keywordExpression => "expression cannot contain assignment, perhaps you meant \"==\"?"
  | starredHere => "cannot use starred expression here"
  | doubleStarredHere => "cannot use double starred expression here"
  | colonAfterKey => "':' expected after dictionary key"
  | starredValue => "cannot use a starred expression in a dictionary value"
  | valueAfterColon => "expression expected after dictionary key and ':'"
  | parameterFault reason => reason
  | captureUnderscore => "cannot use '_' as a target"
  | invalidPatternTarget => "invalid pattern target"
  | positionalPatternAfterKeyword => "positional patterns follow keyword patterns"
  | inField fault => "f-string: " ++ fault.message

end SyntaxFault

/-- A fault with its place: the line from one, the column in characters from zero. -/
structure SyntaxFailure where
  fault : SyntaxFault
  line : Nat
  column : Nat
deriving DecidableEq, Repr

end IfChains
