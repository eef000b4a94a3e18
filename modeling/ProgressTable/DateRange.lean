import ProgressTable.Lookup.Call

/-!
# Date ranges

An author gives names to stretches of time, and a completion is shown by the name of the stretch
it falls in. The ranges are tried in their order and the first enabled one that holds the time
decides, even by an empty label; without a label the fallback is shown, and without a fallback the
time itself.
-/

namespace ProgressTable

/-- A stretch of time, both ends included, and the label shown for it. -/
structure DateRange where
  start : Timestamp
  stop : Timestamp
  label : Text
  enabled : Bool
deriving Repr, DecidableEq

/-- Whether a time lies in the range, enabled or not. -/
def DateRange.contains (r : DateRange) (t : Timestamp) : Bool :=
  r.start ≤ t && t ≤ r.stop

/-- How a host writes a time as a short date. -/
abbrev DateText := Timestamp → Text

/-- The ranges and the fallback of a table, with the host's way to write a date. -/
structure DateLabels where
  ranges : List DateRange
  fallback : Text
  format : DateText

namespace DateLabels

/-- Shown where there is no time. -/
def noDate : Text := [' ']

/-- The first enabled range that holds the time. -/
def find? (ranges : List DateRange) (t : Timestamp) : Option DateRange :=
  ranges.find? fun r => r.enabled && r.contains t

/-- Shown where no range has a label for the time: the fallback, or else the date. Time zero is
no date. -/
def unlabelled (d : DateLabels) (t : Timestamp) : Text :=
  if d.fallback ≠ [] then d.fallback
  else if t = 0 then noDate
  else d.format t

/-- The label of a time. -/
def labelAt (d : DateLabels) (t : Timestamp) : Text :=
  match find? d.ranges t with
  | some r => if r.label = [] then d.unlabelled t else r.label
  | none => d.unlabelled t

/-- The label of a time that may be absent. -/
def label (d : DateLabels) : Option Timestamp → Text
  | none => noDate
  | some t => d.labelAt t

end DateLabels
end ProgressTable
