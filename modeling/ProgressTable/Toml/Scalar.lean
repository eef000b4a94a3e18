import ProgressTable.Toml.Value

/-!
# Scalars of settings files

Quoted texts in their four spellings, whole numbers in four bases, numbers with a fraction, and the
two truth values.
-/

namespace ProgressTable.Toml

open Scan
open ProgressTable.Settings (Floating)

/-! ## Blanks and line ends -/

/-- Blanks within a line. -/
def isBlank (c : Char) : Bool := c = ' ' || c = '\t'

/-- The blanks up to the next other character. -/
def blanks : Scan Unit := do let _ ← run isBlank

/-- A line end in either spelling. -/
def newline : Scan Unit := word ['\n'] <|> word ['\r', '\n']

/-- The characters that may stand in a file outside of line ends: no control character but the
tab. -/
def isPrintable (c : Char) : Bool := c = '\t' || (' ' ≤ c && c ≠ '\x7f')

/-- A comment, up to the end of its line. -/
def comment : Scan Unit := do
  word ['#']
  let _ ← run isPrintable

/-! ## Quoted text -/

/-- The value of a run of digits in a base. -/
def ofDigits (base : Nat) (ds : Text) : Nat :=
  ds.foldl (fun n c => base * n + hexValue c) 0
where
  /-- The value of a digit, letters going on from ten. -/
  hexValue (c : Char) : Nat :=
    if c.isDigit then c.toNat - '0'.toNat else c.toLower.toNat - 'a'.toNat + 10

/-- Whether a character is a digit of base sixteen. -/
def isHexDigit (c : Char) : Bool :=
  c.isDigit || ('a' ≤ c && c ≤ 'f') || ('A' ≤ c && c ≤ 'F')

/-- The character with a number of so many hexadecimal digits. Surrogates are no characters. -/
def codePoint (digits : Nat) : Scan Char := do
  let n := ofDigits 16 (← exactly isHexDigit digits)
  if n.isValidChar then pure (Char.ofNat n) else failure

/-- The character that is written by a backslash and what follows it. -/
def escaped : Scan Char := do
  word ['\\']
  match ← one fun _ => true with
  | 'b' => pure '\x08'
  | 't' => pure '\t'
  | 'n' => pure '\n'
  | 'f' => pure '\x0c'
  | 'r' => pure '\r'
  | '"' => pure '"'
  | '\\' => pure '\\'
  | 'u' => codePoint 4
  | 'U' => codePoint 8
  | _ => failure

/-- Text between double quotes on one line. -/
def basicText : Scan Text := do
  word ['"']
  let t ← many (one (fun c => isPrintable c && c ≠ '"' && c ≠ '\\') <|> escaped)
  word ['"']
  pure t

/-- Text between single quotes on one line, in which nothing is escaped. -/
def literalText : Scan Text := do
  word ['\'']
  let t ← run fun c => isPrintable c && c ≠ '\''
  word ['\'']
  pure t

/-- One or two quotes that do not close a text of several lines. -/
def fewQuotes (quote : Char) : Scan Text := do
  let qs ← run (· = quote)
  if qs.length = 1 ∨ qs.length = 2 then pure qs else failure

/-- The quotes that close a text of several lines, and those before them that belong to it. -/
def closingQuotes (quote : Char) : Scan Text := do
  let qs ← run (· = quote)
  if 3 ≤ qs.length ∧ qs.length ≤ 5 then pure (qs.drop 3) else failure

/-- A line end inside a text of several lines. -/
def keptNewline : Scan Text := (fun _ => ['\n']) <$> newline

/-- A backslash at the end of a line, which drops the line end and all blanks and line ends behind
it. -/
def lineJoin : Scan Text := do
  word ['\\']
  blanks
  newline
  let _ ← many ((fun _ => ()) <$> one isBlank <|> newline)
  pure []

/-- Text of several lines between three quotes: a line end right behind the opening ones does not
belong to it, and up to two quotes may stand next to each other in it. -/
def longText (quote : Char) (piece : Scan Text) : Scan Text := do
  word [quote, quote, quote]
  let _ ← newline.option
  let pieces ← many (piece <|> keptNewline <|> fewQuotes quote)
  let last ← closingQuotes quote
  pure (pieces.flatten ++ last)

/-- Text of several lines between double quotes. -/
def longBasicText : Scan Text :=
  longText '"' ((fun c => [c]) <$> one (fun c => isPrintable c && c ≠ '"' && c ≠ '\\')
    <|> lineJoin <|> (fun c => [c]) <$> escaped)

/-- Text of several lines between single quotes. -/
def longLiteralText : Scan Text :=
  longText '\'' ((fun c => [c]) <$> one fun c => isPrintable c && c ≠ '\'')

/-- Quoted text. -/
def quotedText : Scan Text := longBasicText <|> basicText <|> longLiteralText <|> literalText

/-! ## Numbers -/

/-- Whether there is a minus sign; a plus sign may stand there too. -/
def sign : Scan Bool := do
  match ← (one fun c => c = '+' || c = '-').option with
  | some '-' => pure true
  | _ => pure false

/-- A run of digits of a class. One underscore may stand between two digits. -/
def digitRun (isMember : Char → Bool) : Scan Text := do
  let c ← one isMember
  let cs ← many (one isMember <|> (word ['_'] *> one isMember))
  pure (c :: cs)

/-- The digits of a decimal number before its point: no zero stands before another digit. -/
def wholeDigits : Scan Text := do
  match ← next? with
  | some '0' => (fun c => [c]) <$> one (· = '0')
  | _ => digitRun Char.isDigit

/-- A number that fits a signed word of 64 bits. -/
def fitting (n : Int) : Scan Value :=
  if Word.fits Word.bound63 n then pure (.integer n) else failure

/-- A whole number in a base that its first two characters name. -/
def basedInteger (mark : Char) (base : Nat) (isMember : Char → Bool) : Scan Value := do
  word ['0', mark]
  fitting (ofDigits base (← digitRun isMember))

/-- A decimal whole number. -/
def decimalInteger : Scan Value := do
  let negative ← sign
  let n : Int := ofDigits 10 (← wholeDigits)
  fitting (if negative then -n else n)

/-- A whole number. -/
def integer : Scan Value :=
  basedInteger 'x' 16 isHexDigit
    <|> basedInteger 'o' 8 (fun c => '0' ≤ c && c ≤ '7')
    <|> basedInteger 'b' 2 (fun c => c = '0' || c = '1')
    <|> decimalInteger

/-- The digits behind a point. -/
def fraction : Scan Text := word ['.'] *> digitRun Char.isDigit

/-- The power of ten behind an `e`. -/
def exponent : Scan Int := do
  let _ ← one fun c => c = 'e' || c = 'E'
  let negative ← sign
  let n : Int := ofDigits 10 (← digitRun Char.isDigit)
  pure (if negative then -n else n)

/-- A number with a fraction or an exponent. One that is too great is a mistake, but below zero it
counts as infinite. -/
def decimalFraction : Scan Floating := do
  let negative ← sign
  let whole ← wholeDigits
  let behind ← fraction.option
  let power ← exponent.option
  if behind.isNone && power.isNone then failure
  let fractionDigits := behind.getD []
  let scale := power.getD 0 - fractionDigits.length
  match Magnitude.ofDecimal? (ofDigits 10 (whole ++ fractionDigits)) scale with
  | some m => pure (.finite ⟨negative, m⟩)
  | none => if negative then pure (.infinite true) else failure

/-- A number that has a name. -/
def namedNumber : Scan Floating := do
  let negative ← sign
  (fun _ => .infinite negative) <$> word "inf".toList <|> (fun _ => .nan) <$> word "nan".toList

/-! ## Any scalar -/

/-- A scalar. Dates come before numbers, because they begin like one. -/
def scalar : Scan Value :=
  .text <$> quotedText
    <|> .moment <$> Moment.literal
    <|> .floating <$> (decimalFraction <|> namedNumber)
    <|> integer
    <|> (fun _ => .bool true) <$> word "true".toList
    <|> (fun _ => .bool false) <$> word "false".toList

end ProgressTable.Toml
