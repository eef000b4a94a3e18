import ProgressTable.Form.Submission
import ProgressTable.Form.Wording

/-!
# Description of the form

The fields that a host shows to an author: the content, the fallback, and a group of four fields
for each slot, which is disabled until its checkbox is ticked.
-/

namespace ProgressTable

/-- How a value is entered. -/
inductive Input where
  | textArea (rows cols : Nat)
  | text
  | hidden (value : Text)
  /-- Not entered: a heading. -/
  | heading
  /-- Not entered: a fixed text. -/
  | note (text : Text)
  | dateSelector
  | checkbox
deriving Repr, DecidableEq

/-- A field of a form. -/
structure FormField where
  name : Text
  label : Text
  input : Input
  help : Option Text
deriving Repr, DecidableEq

/-- A part of a form: one field, or several on one line. -/
inductive FormItem where
  | field (f : FormField)
  /-- Fields that are disabled unless the named checkbox is ticked. -/
  | group (name label : Text) (fields : List FormField) (disabledUnless : Text)
deriving Repr, DecidableEq

/-- A field without help. -/
private def plainField (name label : Text) (input : Input) : FormField :=
  ⟨name, label, input, none⟩

/-- The group of a slot. -/
def slotGroup (slot : Nat) : FormItem :=
  let field (name label : Text) (input : Input) : FormField :=
    plainField (FieldName.ofSlot name slot) label input
  .group (FieldName.ofSlot FieldName.group slot) (Wording.dateRange (slot + 1))
    [ field FieldName.startDate Wording.startDate .dateSelector,
      field FieldName.endDate Wording.endDate .dateSelector,
      field FieldName.dateString Wording.dateString .text,
      field FieldName.enabled Wording.enable .checkbox ]
    (FieldName.ofSlot FieldName.enabled slot)

/-- The parts of a form with `maxRanges` slots. -/
def formItems (maxRanges : Nat) : List FormItem :=
  [ .field ⟨FieldName.content, Wording.content, .textArea 20 100, some Wording.contentHelp⟩,
    .field (plainField "dateranges".toList Wording.dateRanges .heading),
    .field (plainField "help".toList [] (.note Wording.dateRangesHelp)),
    .field ⟨FieldName.fallback, Wording.fallback, .text, some Wording.fallbackHelp⟩,
    .field (plainField FieldName.numRanges [] (.hidden (Numeral.ofNat maxRanges))) ]
  ++ (List.range maxRanges).map slotGroup

/-- The fields of a part of a form. -/
def FormItem.fields : FormItem → List FormField
  | field f => [f]
  | group _ _ fs _ => fs

/-! ## As JSON -/

open Json

/-- The members that tell how a value is entered. -/
def Input.members : Input → List (Text × Value)
  | textArea rows cols =>
    [ ("type".toList, .text "text_area".toList), ("rows".toList, .nat rows),
      ("cols".toList, .nat cols) ]
  | text => [("type".toList, .text "text".toList)]
  | hidden value => [("type".toList, .text "hidden".toList), ("value".toList, .text value)]
  | heading => [("type".toList, .text "header".toList)]
  | note t => [("type".toList, .text "static".toList), ("text".toList, .text t)]
  | dateSelector => [("type".toList, .text "date_selector".toList)]
  | checkbox => [("type".toList, .text "checkbox".toList)]

/-- An object whose keys rise. -/
def sortedObject (members : List (Text × Value)) : Value :=
  .object (Dict.ofList members).entries

/-- A field as a JSON value. -/
def FormField.toValue (f : FormField) : Value := sortedObject
  ([("name".toList, .text f.name), ("label".toList, .text f.label)] ++ f.input.members
    ++ match f.help with
      | some help => [("help".toList, .text help)]
      | none => [])

/-- A part of a form as a JSON value. -/
def FormItem.toValue : FormItem → Value
  | field f => f.toValue
  | group name label fields disabledUnless => sortedObject
    [ ("name".toList, .text name), ("label".toList, .text label),
      ("type".toList, .text "group".toList),
      ("elements".toList, .array (fields.map FormField.toValue)),
      ("disabled_unless".toList, .text disabledUnless) ]

end ProgressTable
