/-!
# Errors of reading JSON text

A syntax error names what went wrong and where: the line (from 1) and the column, which
counts the bytes of that line before the point of the error. Its message is the fixed
phrase of the kind followed by ` at line L column C`.
-/

namespace Runbook.Json

/-- What a JSON text got wrong. -/
inductive SyntaxKind where
  | eofInList
  | eofInObject
  | eofInString
  | eofInValue
  | expectedColon
  | expectedListCommaOrEnd
  | expectedObjectCommaOrEnd
  | expectedIdent
  | expectedValue
  | invalidEscape
  | invalidNumber
  | numberOutOfRange
  | controlCharacter
  | keyMustBeString
  | loneLeadingSurrogate
  | trailingComma
  | trailingCharacters
  | unexpectedEndOfHexEscape
  | recursionLimit
  deriving Repr, DecidableEq

/-- The phrase for each kind of syntax error. -/
def SyntaxKind.phrase : SyntaxKind → String
  | .eofInList => "EOF while parsing a list"
  | .eofInObject => "EOF while parsing an object"
  | .eofInString => "EOF while parsing a string"
  | .eofInValue => "EOF while parsing a value"
  | .expectedColon => "expected `:`"
  | .expectedListCommaOrEnd => "expected `,` or `]`"
  | .expectedObjectCommaOrEnd => "expected `,` or `\x7d`"
  | .expectedIdent => "expected ident"
  | .expectedValue => "expected value"
  | .invalidEscape => "invalid escape"
  | .invalidNumber => "invalid number"
  | .numberOutOfRange => "number out of range"
  | .controlCharacter => "control character (\\u0000-\\u001F) found while parsing a string"
  | .keyMustBeString => "key must be a string"
  | .loneLeadingSurrogate => "lone leading surrogate in hex escape"
  | .trailingComma => "trailing comma"
  | .trailingCharacters => "trailing characters"
  | .unexpectedEndOfHexEscape => "unexpected end of hex escape"
  | .recursionLimit => "recursion limit exceeded"

/-- A syntax error with its place in the text. -/
structure SyntaxError where
  kind : SyntaxKind
  line : Nat
  column : Nat
  deriving Repr, DecidableEq

/-- `phrase at line L column C`. -/
def SyntaxError.message (e : SyntaxError) : String :=
  e.kind.phrase ++ " at line " ++ toString e.line ++ " column " ++ toString e.column

/-- The line and column of the byte offset `i` in a text: the line counts the newlines
before `i`, the column the bytes between the last of them and `i`. -/
def position (bytes : List UInt8) (i : Nat) : Nat × Nat :=
  (bytes.take i).foldl
    (fun (acc : Nat × Nat) (b : UInt8) => if b = 10 then (acc.1 + 1, 0) else (acc.1, acc.2 + 1))
    (1, 0)

end Runbook.Json
