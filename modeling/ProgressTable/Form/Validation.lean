import ProgressTable.Form.Submission
import ProgressTable.Form.Wording

/-!
# Checking a form

The width must not be negative and must fit the page. A slot whose checkbox is ticked needs a label,
and its range must start before it ends. An error belongs to a field, or to the group of a slot; of
two errors in one place the later one is shown.
-/

namespace ProgressTable

/-- Messages by the field they belong to. -/
abbrev FormErrors := Dict Text

namespace FormErrors

/-- The messages, one to a line behind the name of its field. -/
def print (e : FormErrors) : Text :=
  e.entries.flatMap fun (field, message) => field ++ ": ".toList ++ message ++ ['\n']

end FormErrors

namespace Submission

/-- What is wrong with the width. No greatest width is a greatest width of zero or less. -/
def widthError? (d : Submission) (maxWidth : Int64) : Option Text :=
  (d.int? FieldName.width).bind fun w =>
    if w < 0 then some Wording.negativeWidth
    else if 0 < maxWidth ∧ maxWidth < w then some (Wording.widthTooLarge maxWidth)
    else none

/-- What is wrong with a slot, in the order in which it is noted. -/
def slotErrors (d : Submission) (slot : Nat) : List Text :=
  if d.enabledAt slot then
    (if d.labelOf slot = [] then [Wording.invalidDateString] else [])
      ++ (if d.stopOf slot ≤ d.startOf slot then [Wording.invalidDate] else [])
  else []

/-- Enters the errors of a slot under its group. -/
def noteSlot (d : Submission) (e : FormErrors) (slot : Nat) : FormErrors :=
  (d.slotErrors slot).foldl (fun e m => e.insert (FieldName.ofSlot FieldName.group slot) m) e

/-- Checks a form. -/
def validate (d : Submission) (maxWidth : Int64) : FormErrors :=
  let start : FormErrors := match d.widthError? maxWidth with
    | some m => Dict.empty.insert FieldName.width m
    | none => .empty
  d.slots.foldl d.noteSlot start

end Submission
end ProgressTable
