import ProgressTable.Text.Basic

/-!
# Blank characters

The characters with the Unicode property `White_Space`, and trimming by them. Labels, submitted
numbers and date patterns all use this one class.
-/

namespace ProgressTable.Text

/-- Whether a character has the property `White_Space`. -/
def isBlank (c : Char) : Bool :=
  let n := c.toNat
  (0x09 ≤ n && n ≤ 0x0D) || n == 0x20 || n == 0x85 || n == 0xA0 || n == 0x1680
    || (0x2000 ≤ n && n ≤ 0x200A) || n == 0x2028 || n == 0x2029 || n == 0x202F
    || n == 0x205F || n == 0x3000

/-- The text without the characters of a class at its start and at its end. -/
def trimBy (isMember : Char → Bool) (t : Text) : Text :=
  ((t.dropWhile isMember).reverse.dropWhile isMember).reverse

/-- The text without its leading and trailing blanks. -/
def trim (t : Text) : Text := trimBy isBlank t

example : trim " \u00a0 Week 1\t".toList = "Week 1".toList := by decide

end ProgressTable.Text
