import ProgressTable.Text.Numeral

/-!
# Wording of the form

The texts that an author reads.
-/

namespace ProgressTable.Wording

/-- The name under which a host knows the kind of element. -/
def elementKind : Text := "customcertelement_completiontable".toList

/-- The name of the kind of element. -/
def elementTitle : Text := "Completion Table".toList

/-- Labels the content. -/
def content : Text := "Content of the table".toList

/-- Explains the content. -/
def contentHelp : Text :=
  ("Rows of the table. ^:width:Header ^ for header cells, #Group# for group rows, "
    ++ "| Section name | cell | for section rows and \x7bcompletion:ID\x7d for an activity's "
    ++ "completion.").toList

/-- Heads the date ranges. -/
def dateRanges : Text := "Date Ranges".toList

/-- Explains the date ranges. -/
def dateRangesHelp : Text := "Specify Text for each date range".toList

/-- Labels the start of a range. -/
def startDate : Text := "Start Date".toList

/-- Labels the end of a range. -/
def endDate : Text := "End Date".toList

/-- Labels the label of a range. -/
def dateString : Text := "Date String".toList

/-- Labels the checkbox of a range. -/
def enable : Text := "Enable".toList

/-- Labels the fallback. -/
def fallback : Text := "Fall Back String".toList

/-- Explains the fallback. -/
def fallbackHelp : Text := "Default String for date range".toList

/-- Labels a numbered range. -/
def dateRange (number : Nat) : Text := "Date Range ".toList ++ Numeral.ofNat number

/-! ## Errors -/

/-- An enabled range has no label. -/
def invalidDateString : Text := "Date string is invalid".toList

/-- An enabled range does not start before it ends. -/
def invalidDate : Text := "Date value is invalid".toList

/-- The width is negative. -/
def negativeWidth : Text := "The width has to be greater than or equal to 0.".toList

/-- The element does not fit its page. -/
def widthTooLarge (max : Int64) : Text :=
  "The width can not be greater than the maximum width of ".toList ++ Numeral.ofInt64 max ++ ['.']

end ProgressTable.Wording
