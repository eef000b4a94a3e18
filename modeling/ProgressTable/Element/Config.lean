import ProgressTable.DateRange
import ProgressTable.Journal
import ProgressTable.Json.Value

/-!
# The configuration of a table

What an author has settled about a table: its content, the fallback label and the date ranges. A
host keeps it as JSON text. The number of ranges stands in that text too, but only the ranges
themselves are believed.
-/

namespace ProgressTable

/-- What an author has settled about a table. -/
structure TableConfig where
  content : Text
  fallback : Text
  ranges : List DateRange
deriving Repr, DecidableEq

namespace TableConfig

open Json

/-- The configuration of a new table. -/
def empty : TableConfig := ⟨[], [], []⟩

/-- The labels of a table, given a way to write dates. -/
def labels (c : TableConfig) (format : DateText) : DateLabels := ⟨c.ranges, c.fallback, format⟩

/-! ## Writing -/

/-- A date range as it is stored. -/
def rangeValue (r : DateRange) : Value := .object [
  ("startdate".toList, .int64 r.start),
  ("enddate".toList, .int64 r.stop),
  ("datestring".toList, .text r.label),
  ("enabled".toList, .bool r.enabled)]

/-- A configuration as it is stored. -/
def toValue (c : TableConfig) : Value := .object [
  ("content".toList, .text c.content),
  ("fallbackstring".toList, .text c.fallback),
  ("numranges".toList, .nat c.ranges.length),
  ("dateranges".toList, .array (c.ranges.map rangeValue))]

/-- The stored text of a configuration. -/
def encode (c : TableConfig) : Text := c.toValue.compact

/-! ## Reading -/

/-- A stored configuration together with the number of ranges it claims to have. -/
structure Stored where
  config : TableConfig
  claimed : Nat
deriving Repr, DecidableEq

/-- How a date range is read; what is left out is zero, empty or disabled. -/
def rangeRecord : Record DateRange where
  name := "struct StoredRange".toList
  fields := [
    .optional "startdate".toList int64 fun x r => { r with start := x },
    .optional "enddate".toList int64 fun x r => { r with stop := x },
    .optional "datestring".toList Json.text fun x r => { r with label := x },
    .optional "enabled".toList bool fun x r => { r with enabled := x }]
  initial := ⟨0, 0, [], false⟩

/-- How a configuration is read; what is left out is empty. -/
def record : Record Stored where
  name := "struct StoredData".toList
  fields := [
    .optional "content".toList Json.text fun x s => { s with config.content := x },
    .optional "fallbackstring".toList Json.text fun x s => { s with config.fallback := x },
    .optional "numranges".toList count fun x s => { s with claimed := x },
    .optional "dateranges".toList (array rangeRecord.read) fun x s =>
      { s with config.ranges := x }]
  initial := ⟨.empty, 0⟩

/-- The part of the program that speaks while a stored text is read. -/
def logTarget : Text := "completion_table::blob".toList

/-- The wording of an error in a stored text. -/
def decodeMessage (e : Error) : Text := "Invalid stored data: ".toList ++ e.message

/-- Reads a stored text. A wrong number of ranges is noted and otherwise ignored. -/
def decode (t : Text) : Journaled (Except Error TableConfig) := do
  match readText record.read t with
  | .error e => pure (.error e)
  | .ok s =>
    if s.claimed ≠ s.config.ranges.length then
      Journaled.log .debug logTarget
        ("stored numranges ".toList ++ Numeral.ofNat s.claimed ++ " disagrees with ".toList
          ++ Numeral.ofNat s.config.ranges.length ++ " stored ranges".toList)
    pure (.ok s.config)

end TableConfig
end ProgressTable
