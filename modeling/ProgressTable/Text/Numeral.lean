import ProgressTable.Text.Basic
import ProgressTable.Word

/-!
# Decimal numerals

Numbers as authors and stored documents write them: decimal digits, with a sign where the number
is signed. Printing gives the one canonical numeral; reading also takes leading zeros and a plus
sign, and refuses a number that does not fit its word.
-/

namespace ProgressTable.Numeral

/-! ## Printing -/

/-- The character of a digit below ten. -/
def digit (n : Nat) : Char := Char.ofNat ('0'.toNat + n)

/-- The canonical numeral of a number. -/
def ofNat (n : Nat) : Text :=
  if n < 10 then [digit n] else ofNat (n / 10) ++ [digit (n % 10)]

/-- The canonical numeral of a signed number: a minus sign stands before a negative one. -/
def ofInt (n : Int) : Text :=
  if n < 0 then '-' :: ofNat n.natAbs else ofNat n.natAbs

/-- The canonical numeral of a word. -/
def ofInt64 (n : Int64) : Text := ofInt n.toInt

/-- The numeral filled up with zeros on the left to at least `width` characters. -/
def padded (width n : Nat) : Text :=
  List.replicate (width - (ofNat n).length) '0' ++ ofNat n

/-! ## Reading -/

/-- The value of a decimal digit. -/
def digitValue? (c : Char) : Option Nat :=
  if c.isDigit then some (c.toNat - '0'.toNat) else none

/-- The number that a run of digits continues from the number read so far. -/
def continueNat? (sofar : Nat) : Text → Option Nat
  | [] => some sofar
  | c :: r => match digitValue? c with
    | some d => continueNat? (10 * sofar + d) r
    | none => none

/-- Reads digits, at least one and nothing else. -/
def readDigits? : Text → Option Nat
  | [] => none
  | t => continueNat? 0 t

/-- Reads digits after an optional plus sign. -/
def readNat? : Text → Option Nat
  | '+' :: r => readDigits? r
  | t => readDigits? t

/-- Reads digits after an optional sign. -/
def readInt? : Text → Option Int
  | '-' :: r => (readDigits? r).map fun n => -(n : Int)
  | t => (readNat? t).map fun n => (n : Int)

/-- Reads a number that fits a signed word of 64 bits. -/
def readInt64? (t : Text) : Option Int64 :=
  (readInt? t).bind Word.int64?

/-- Reads a number that fits a signed word of 32 bits. -/
def readInt32? (t : Text) : Option Int32 :=
  (readInt? t).bind Word.int32?

/-- Reads a number that fits an unsigned word of 32 bits. -/
def readUInt32? (t : Text) : Option UInt32 :=
  (readNat? t).bind Word.uint32?

/-- Reads a count: a number that fits an unsigned word of 64 bits. -/
def readCount? (t : Text) : Option Nat :=
  (readNat? t).bind Word.count?

example : readCount? "+007".toList = some 7 ∧ readCount? "-7".toList = none
    ∧ readInt64? "-9223372036854775808".toList = some (-9223372036854775808)
    ∧ readInt64? "9223372036854775808".toList = none ∧ readInt64? "+".toList = none := by
  decide

end ProgressTable.Numeral
