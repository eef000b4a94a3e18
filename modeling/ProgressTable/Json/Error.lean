import ProgressTable.Text.Numeral

/-!
# Errors in JSON text

What can be wrong with a JSON text, and where. A position is a line, counted from one, and the
number of bytes of that line that were read.
-/

namespace ProgressTable.Json

/-! ## Positions -/

/-- A place in a text. -/
structure Position where
  line : Nat
  column : Nat
deriving Repr, DecidableEq

namespace Position

/-- The place before the first character. -/
def start : Position := ⟨1, 0⟩

/-- The place behind a character. -/
def next (p : Position) (c : Char) : Position :=
  if c = '\n' then ⟨p.line + 1, 0⟩ else ⟨p.line, p.column + c.utf8Size⟩

/-- The place behind the first byte of a character. -/
def afterByte (p : Position) (c : Char) : Position :=
  if c = '\n' then ⟨p.line + 1, 0⟩ else ⟨p.line, p.column + 1⟩

/-- The place behind some bytes of one line. -/
def plus (p : Position) (bytes : Nat) : Position := ⟨p.line, p.column + bytes⟩

end Position

/-! ## Errors -/

/-- What is wrong with a JSON text. -/
inductive Problem where
  | eofInValue | eofInList | eofInObject | eofInString
  | expectedColon | expectedCommaOrBracket | expectedCommaOrBrace
  | expectedValue | expectedLiteral
  | invalidNumber | numberOutOfRange
  | invalidEscape | loneSurrogate | unfinishedSurrogatePair | controlCharacter
  | keyNotString | trailingComma | trailingCharacters | tooDeep
  /-- A value of the wrong kind. -/
  | wrongType (found expected : Text)
  /-- A number outside the range of its field. -/
  | wrongValue (found expected : Text)
  | duplicateField (name : Text)
  | missingField (name : Text)
  | wrongLength (length : Nat) (expected : Text)
deriving Repr, DecidableEq

/-- The wording of a problem. -/
def Problem.message : Problem → Text
  | eofInValue => "EOF while parsing a value".toList
  | eofInList => "EOF while parsing a list".toList
  | eofInObject => "EOF while parsing an object".toList
  | eofInString => "EOF while parsing a string".toList
  | expectedColon => "expected `:`".toList
  | expectedCommaOrBracket => "expected `,` or `]`".toList
  | expectedCommaOrBrace => "expected `,` or `\x7d`".toList
  | expectedValue => "expected value".toList
  | expectedLiteral => "expected ident".toList
  | invalidNumber => "invalid number".toList
  | numberOutOfRange => "number out of range".toList
  | invalidEscape => "invalid escape".toList
  | loneSurrogate => "lone leading surrogate in hex escape".toList
  | unfinishedSurrogatePair => "unexpected end of hex escape".toList
  | controlCharacter =>
    "control character (\\u0000-\\u001F) found while parsing a string".toList
  | keyNotString => "key must be a string".toList
  | trailingComma => "trailing comma".toList
  | trailingCharacters => "trailing characters".toList
  | tooDeep => "recursion limit exceeded".toList
  | wrongType found expected =>
    "invalid type: ".toList ++ found ++ ", expected ".toList ++ expected
  | wrongValue found expected =>
    "invalid value: ".toList ++ found ++ ", expected ".toList ++ expected
  | duplicateField name => "duplicate field `".toList ++ name ++ "`".toList
  | missingField name => "missing field `".toList ++ name ++ "`".toList
  | wrongLength length expected =>
    "invalid length ".toList ++ Numeral.ofNat length ++ ", expected ".toList ++ expected

/-- A problem and where it was noticed. -/
structure Error where
  problem : Problem
  position : Position
deriving Repr, DecidableEq

/-- The wording of an error. -/
def Error.message (e : Error) : Text :=
  e.problem.message ++ " at line ".toList ++ Numeral.ofNat e.position.line
    ++ " column ".toList ++ Numeral.ofNat e.position.column

end ProgressTable.Json
