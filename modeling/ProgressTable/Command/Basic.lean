import ProgressTable.Element.Element
import ProgressTable.Lookup.Store
import ProgressTable.Settings.Basic

/-!
# Commands

What the command line can do, given the contents of the files that it names. Each command gives the
text to print or the message of what went wrong, together with its journal.
-/

namespace ProgressTable.Command

open Json

/-- A command: text to print, or a message. -/
abbrev Run (α : Type) := ExceptT Text Journaled α

/-- A result that is reported with some words before its message. -/
def orFail {α : Type} (words : Text) (x : Except Error α) : Run α :=
  match x with
  | .ok a => pure a
  | .error e => throw (words ++ e.message)

/-! ## Reading files -/

/-- Reads a stored configuration. -/
def loadElement (source : Text) : Run TableConfig := do
  match ← (TableConfig.decode source : Journaled _) with
  | .ok c => pure c
  | .error e => throw (TableConfig.decodeMessage e)

/-- Reads a store. -/
def loadStore (source : Text) : Run Store := orFail "Invalid fixture: ".toList (Store.ofJson source)

/-- Reads a form. -/
def loadForm (source : Text) : Run Submission :=
  orFail "Invalid form data: ".toList (Submission.ofJson source)

/-- Reads a page, if there is one. -/
def loadPage : Option Text → Run (Option Page)
  | none => pure none
  | some source => some <$> orFail "Invalid page: ".toList (Page.ofJson source)

/-! ## Rendering -/

/-- The part of the program that speaks while a command is carried out. -/
def logTarget : Text := "completion_table_cli::commands".toList

/-- Which course a table is rendered in. -/
inductive Target where
  | course (id : CourseId)
  /-- The course of an element, as the store knows it. -/
  | element (id : ElementId)
deriving Repr, DecidableEq

/-- The course of a target. -/
def courseOf (store : Store) : Target → Run CourseId
  | .course id => pure id
  | .element id => match store.courseOf? id with
    | some course => pure course
    | none => throw
      ("Element ".toList ++ Numeral.ofInt64 id ++ " does not belong to any course".toList)

/-- Renders an element for a user. -/
def render (element fixture : Text) (user : UserId) (target : Target) (preview : Bool)
    (settings : Settings) : Run Text := do
  let config ← loadElement element
  let store ← loadStore fixture
  let course ← courseOf store target
  (Journaled.log .info logTarget
    ("Rendering for user ".toList ++ Numeral.ofInt64 user ++ " in course ".toList
      ++ Numeral.ofInt64 course ++ " (preview: ".toList
      ++ (if preview then "true".toList else "false".toList) ++ [')']) : Journaled Unit)
  let format ← (settings.createDateFormat : Journaled _)
  let ctx : RenderContext := { user, course, preview := false, backend := store.backend }
  if preview then (Element.renderPreview config ctx format.format : Journaled _)
  else (Element.render config ctx format.format : Journaled _)

/-! ## Dates -/

/-- The label of a time in the ranges of an element. -/
def resolveDate (element : Text) (time : Option Timestamp) (settings : Settings) : Run Text := do
  let config ← loadElement element
  let format ← (settings.createDateFormat : Journaled _)
  pure ((config.labels format.format).label time)

/-! ## Authoring -/

/-- Checks a form. -/
def validate (form : Text) (page : Option Text) : Run FormErrors := do
  let d ← loadForm form
  let p ← loadPage page
  pure (Element.validate d p)

/-- Saves a form and prints what is stored. -/
def save (form : Text) (page : Option Text) : Run Text := do
  let d ← loadForm form
  let p ← loadPage page
  let s ← (Element.save d p : Journaled _)
  pure ((Element.savedValue s).pretty 0)

/-- The form of an element as JSON: its description, and what fills it in if there is an element.
The members stand in the order of their names. -/
def formValue (settings : Settings) (config : Option TableConfig) : Value :=
  let defaults := match config with
    | some c =>
      let submitted := Submission.empty.set FieldName.numRanges (Numeral.ofNat settings.maxRanges)
      [("defaults".toList, (c.toSubmission submitted).toValue)]
    | none => []
  .object (defaults ++ [
    ("element".toList, .text Wording.elementKind),
    ("fields".toList, .array ((formItems settings.maxRanges).map FormItem.toValue)),
    ("title".toList, .text Wording.elementTitle)])

/-- Prints the form, filled in from an element if one is given. -/
def form (element : Option Text) (settings : Settings) : Run Text := do
  let config ← match element with
    | some source => some <$> loadElement source
    | none => pure none
  pure ((formValue settings config).pretty 0)

end ProgressTable.Command
