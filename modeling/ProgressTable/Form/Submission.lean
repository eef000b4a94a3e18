import ProgressTable.Json.Value
import ProgressTable.Text.Blank

/-!
# Submitted forms

A submitted form is a dictionary from the names of fields to the texts that were entered. The
fields of a date range carry the number of its slot, as in `datestring3`. Numbers are read
leniently: a text that is no number counts as zero.
-/

namespace ProgressTable

/-! ## Names of fields -/

namespace FieldName

/-- The content of the table. -/
def content : Text := "content".toList
/-- The fallback label. -/
def fallback : Text := "fallbackstring".toList
/-- The number of slots. -/
def numRanges : Text := "numranges".toList
/-- The width of the element. -/
def width : Text := "width".toList
/-- The start of a slot's range. -/
def startDate : Text := "startdate".toList
/-- The end of a slot's range. -/
def endDate : Text := "enddate".toList
/-- The label of a slot's range. -/
def dateString : Text := "datestring".toList
/-- The checkbox of a slot. -/
def enabled : Text := "enabled".toList
/-- The fields of a slot together. -/
def group : Text := "group".toList

/-- The name of a field of a slot. -/
def ofSlot (name : Text) (slot : Nat) : Text := name ++ Numeral.ofNat slot

/-- The names to which the number of a slot is added. -/
def slotNames : List Text := [startDate, endDate, dateString, enabled]

/-- The slot that the name of a field belongs to. Any numeral that can be read names a slot. -/
def slot? (name : Text) : Option Nat :=
  slotNames.findSome? fun base => (base.isPrefixOf? name).bind Numeral.readCount?

end FieldName

/-! ## Submissions -/

/-- A submitted form: the text entered in each field. -/
structure Submission where
  values : Dict Text
deriving DecidableEq

namespace Submission

/-- The form without fields. -/
def empty : Submission := ⟨.empty⟩

/-- Sets the text of a field. -/
def set (d : Submission) (name value : Text) : Submission := ⟨d.values.insert name value⟩

/-- The text of a field, if it was submitted. -/
def get? (d : Submission) (name : Text) : Option Text := d.values.get? name

/-- The text of a field, empty if it was not submitted. -/
def text (d : Submission) (name : Text) : Text := (d.get? name).getD []

/-- The number in a field, if it was submitted. -/
def int? (d : Submission) (name : Text) : Option Int64 :=
  (d.get? name).map fun v => (Numeral.readInt64? (Text.trim v)).getD 0

/-- Whether a checkbox was ticked. -/
def isChecked (d : Submission) (name : Text) : Bool :=
  match d.get? name with
  | none => false
  | some v => v ≠ [] && v ≠ ['0']

/-! ## Slots -/

/-- The number of slots of the form. -/
def numRanges (d : Submission) : Nat :=
  match d.int? FieldName.numRanges with
  | some n => n.toInt.toNat
  | none => 0

/-- Puts a number in its place among rising numbers. -/
def insertSlot (n : Nat) : List Nat → List Nat
  | [] => [n]
  | m :: ms =>
    if n < m then n :: m :: ms
    else if n = m then m :: ms
    else m :: insertSlot n ms

/-- The slots of the form for which some field was submitted, rising. All other slots are empty, so
nothing is lost by passing them over, and the number of slots costs nothing. -/
def slots (d : Submission) : List Nat :=
  ((d.values.keys.filterMap FieldName.slot?).filter (· < d.numRanges)).foldr insertSlot []

/-- The start of a slot's range. -/
def startOf (d : Submission) (slot : Nat) : Int64 :=
  (d.int? (FieldName.ofSlot FieldName.startDate slot)).getD 0

/-- The end of a slot's range. -/
def stopOf (d : Submission) (slot : Nat) : Int64 :=
  (d.int? (FieldName.ofSlot FieldName.endDate slot)).getD 0

/-- The label of a slot's range. -/
def labelOf (d : Submission) (slot : Nat) : Text :=
  d.text (FieldName.ofSlot FieldName.dateString slot)

/-- Whether a slot's range is enabled. -/
def enabledAt (d : Submission) (slot : Nat) : Bool :=
  d.isChecked (FieldName.ofSlot FieldName.enabled slot)

/-! ## As JSON -/

open Json

/-- How many containers may be nested in the value of a field. -/
def greatestDepth : Nat := 126

/-- The text of a field whose value is given in JSON: a ticked box is one, an unticked one is
empty, and null is no value. Numbers, arrays and objects keep their JSON text. -/
def fieldText? : Value → Option Text
  | .null => none
  | .bool true => some ['1']
  | .bool false => some []
  | .text t => some t
  | v => some v.compact

/-- Reads a form from an object. -/
def ofJson (t : Text) : Except Error Submission := do
  let d ← readText (dict (Value.read greatestDepth)) t
  pure ⟨.ofList (d.entries.filterMap fun (k, v) => (fieldText? v).map fun x => (k, x))⟩

/-- A form as a JSON value. -/
def toValue (d : Submission) : Value := .ofDict .text d.values

/-- Writes a form. -/
def toJson (d : Submission) : Text := d.toValue.compact

end Submission
end ProgressTable
