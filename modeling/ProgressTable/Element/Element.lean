import ProgressTable.Element.Config
import ProgressTable.Element.Page
import ProgressTable.Form.Authoring
import ProgressTable.Form.Descriptor
import ProgressTable.Form.Validation
import ProgressTable.Markup.Table

/-!
# The element on a page

A host knows the table as one element among others: it asks for the form, checks and saves what was
submitted, and asks for the HTML when a page is printed or previewed. A width of zero stands for the
whole width of the page.
-/

namespace ProgressTable

/-- What is stored when a form is saved. -/
structure SavedElement where
  data : Text
  width : Int64
deriving Repr, DecidableEq

namespace Element

open Json

/-- The part of the program that speaks when an element is saved. -/
def logTarget : Text := "completion_table::element".toList

/-- The width that a form asks for, or the whole width of the page. -/
def widthOf (d : Submission) (page : Option Page) : Int64 :=
  let w := (d.int? FieldName.width).getD 0
  if w = 0 then maxWidth page else w

/-- What a form saves on a page. -/
def saved (d : Submission) (page : Option Page) : SavedElement :=
  ⟨(TableConfig.ofSubmission d).encode, widthOf d page⟩

/-- Saves a form. -/
def save (d : Submission) (page : Option Page) : Journaled SavedElement := do
  Journaled.log .debug logTarget
    ("Saving ".toList ++ Wording.elementKind ++ " with ".toList
      ++ Numeral.ofNat (TableConfig.ofSubmission d).ranges.length
      ++ " date range(s), width ".toList ++ Numeral.ofInt64 (widthOf d page))
  pure (saved d page)

/-- Checks a form for a page. -/
def validate (d : Submission) (page : Option Page) : FormErrors := d.validate (maxWidth page)

/-- What was saved as a JSON value. -/
def savedValue (s : SavedElement) : Value :=
  .object [("data".toList, .text s.data), ("width".toList, .int64 s.width)]

/-- The HTML of an element. -/
def render (c : TableConfig) (ctx : RenderContext) (format : DateText) : Journaled Text :=
  renderTable ctx (c.labels format) c.content

/-- The HTML of an element in the editor, which is always a preview. -/
def renderPreview (c : TableConfig) (ctx : RenderContext) (format : DateText) : Journaled Text :=
  render c { ctx with preview := true } format

end Element
end ProgressTable
