import ProgressTable.Text.Unprintable

/-!
# Text shown in a message

Messages about a document show text of the document between quotes. What would not be seen, or
would be taken for the end of the quotation, is escaped: quotes and backslashes, the usual controls
by a letter, and every other character that does not print or joins the one before it by its code
point in braces.
-/

namespace ProgressTable.Text

/-- The hexadecimal numeral of a number, in small letters. -/
def hexNumeral (n : Nat) : Text := Nat.toDigits 16 n

/-- A character as it stands in a quotation. -/
def escapeShown (c : Char) : Text :=
  if c = '"' then ['\\', '"']
  else if c = '\\' then ['\\', '\\']
  else if c = '\x00' then ['\\', '0']
  else if c = '\t' then ['\\', 't']
  else if c = '\n' then ['\\', 'n']
  else if c = '\r' then ['\\', 'r']
  else if isUnprintable c then "\\u\x7b".toList ++ hexNumeral c.toNat ++ ['}']
  else [c]

/-- Text between quotes as a message shows it. -/
def shown (t : Text) : Text := '"' :: t.flatMap escapeShown ++ ['"']

example : shown "say \"hi\"\n\u0301".toList = "\"say \\\"hi\\\"\\n\\u\x7b301\x7d\"".toList := by
  decide +kernel

end ProgressTable.Text
