import ProgressTable.Lookup.Backend
import ProgressTable.Markup.Cell
import ProgressTable.Markup.Separator
import ProgressTable.Text.Blank

/-!
# Reading a document

A document is the content of a table as its author wrote it. Separators are doubled throughout,
then each line is classified by how it starts. The row of a section asks the course about its
section once, here; header rows, group rows and plain text ask nothing.
-/

namespace ProgressTable.Document

open Text

/-- The part of the program that speaks while a document is read. -/
def logTarget : Text := "completion_table::markup::parser".toList

/-- What the sections found say together: the last one decides. -/
def statusOf (found : List SectionRecord) : SectionStatus :=
  match found.getLast? with
  | none => .invalid
  | some r => if r.visible then .visible else .hidden

/-- Asks the course for the status of the section with this label. A failed lookup is logged and
leaves the section invalid. -/
def askStatus (backend : Backend) (course : CourseId) (label : Text) :
    Journaled SectionStatus := do
  match ← backend.askSections course label with
  | .ok found => pure (statusOf found)
  | .error e =>
    Journaled.log .warn logTarget
      ("Section lookup for ".toList ++ inApostrophes label ++ " in course ".toList
        ++ Numeral.ofInt64 course ++ " failed: ".toList ++ e.describe)
    pure .invalid

/-- The row of the section with this label. -/
def readSectionRow (backend : Backend) (course : CourseId) (label line : Text) :
    Journaled SectionRow := do
  let status ← askStatus backend course label
  Journaled.log .debug logTarget
    ("section ".toList ++ inApostrophes label ++ " in course ".toList
      ++ Numeral.ofInt64 course ++ ": ".toList ++ status.name)
  pure { label, fragments := Cell.fragments Cell.sectionPattern line, status, completion := none }

/-- Classifies one line, whose separators are doubled already. -/
def readLine (backend : Backend) (course : CourseId) (line : Text) : Journaled Line :=
  if (delimited? '^' line).isSome then
    pure (.headerRow (Cell.fragments Cell.headerPattern line))
  else if (delimited? '#' line).isSome then
    pure (.groupRow (Cell.fragments Cell.groupPattern line))
  else match delimited? '|' line with
    | some (inner, _) => .sectionRow <$> readSectionRow backend course (trim inner) line
    | none => pure (.plain line)

/-- Reads a document: one line of the table for each line of the text, asking the course about
the sections from top to bottom. -/
def read (backend : Backend) (course : CourseId) (content : Text) : Journaled (List Line) :=
  (lines (Separator.double content)).mapM (readLine backend course)

end ProgressTable.Document
