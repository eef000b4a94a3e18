import ProgressTable.Element.Config
import ProgressTable.Form.Submission

/-!
# From a form to a configuration and back

A submitted form is turned into the configuration to be stored, and a stored configuration fills in
the form. Only slots with a label are kept, in the order of their numbers; the form numbers its
slots anew.
-/

namespace ProgressTable

/-- The range of a slot. -/
def Submission.rangeAt (d : Submission) (slot : Nat) : DateRange :=
  ⟨d.startOf slot, d.stopOf slot, d.labelOf slot, d.enabledAt slot⟩

/-- The configuration that a form describes. -/
def TableConfig.ofSubmission (d : Submission) : TableConfig where
  content := d.text FieldName.content
  fallback := d.text FieldName.fallback
  ranges := d.slots.filterMap fun slot =>
    if d.labelOf slot = [] then none else some (d.rangeAt slot)

/-- Enters a range into a slot of a form. -/
def Submission.enterRange (d : Submission) (slot : Nat) (r : DateRange) : Submission :=
  (((d.set (FieldName.ofSlot FieldName.startDate slot) (Numeral.ofInt64 r.start)).set
    (FieldName.ofSlot FieldName.endDate slot) (Numeral.ofInt64 r.stop)).set
    (FieldName.ofSlot FieldName.dateString slot) r.label).set
    (FieldName.ofSlot FieldName.enabled slot) (if r.enabled then ['1'] else ['0'])

/-- The form filled in from a configuration. It has as many slots as were submitted before, and
never fewer than there are ranges. -/
def TableConfig.toSubmission (c : TableConfig) (submitted : Submission) : Submission :=
  let start := ((Submission.empty.set FieldName.content c.content).set
    FieldName.fallback c.fallback).set
    FieldName.numRanges (Numeral.ofNat (max submitted.numRanges c.ranges.length))
  c.ranges.zipIdx.foldl (fun d (r, slot) => d.enterRange slot r) start

end ProgressTable
