import ProgressTable.Text.Basic

/-!
# Lines of a table

The content of a table is read line by line. A line is a header row, a group row, the row of a
course section, or plain text; the three kinds of row are made of fragments, which are cells of
that row and the text left between them.
-/

namespace ProgressTable

/-- A cell of a row, or text kept as it was written. -/
inductive Fragment where
  /-- A heading that takes `width` percent of the table. -/
  | headerCell (width : UInt32) (text : Text)
  /-- The title of a group. -/
  | groupCell (text : Text)
  /-- A cell in the row of a section. -/
  | sectionCell (text : Text)
  /-- Text outside the cells. -/
  | raw (text : Text)
deriving Repr, DecidableEq

namespace Fragment

/-- The text of a fragment. -/
def text : Fragment → Text
  | headerCell _ t | groupCell t | sectionCell t | raw t => t

/-- The same fragment with another text. -/
def withText (t : Text) : Fragment → Fragment
  | headerCell w _ => headerCell w t
  | groupCell _ => groupCell t
  | sectionCell _ => sectionCell t
  | raw _ => raw t

/-- Raw text as a fragment, if there is any. -/
def rawUnlessEmpty : Text → List Fragment
  | [] => []
  | t => [raw t]

end Fragment

/-- What the course says about the section that a row names. -/
inductive SectionStatus where
  /-- The section is shown to everybody. -/
  | visible
  /-- The section is kept from users. -/
  | hidden
  /-- The course has no such section, or could not say. -/
  | invalid
deriving Repr, DecidableEq

/-- The name of a status in a log record. -/
def SectionStatus.name : SectionStatus → Text
  | visible => "Visible".toList
  | hidden => "Hidden".toList
  | invalid => "Invalid".toList

/-- Whether the activities named so far were completed. -/
inductive CompletionMark where
  | completed
  | notCompleted
deriving Repr, DecidableEq

/-- Adds the mark of one more activity: one that is not completed decides for all. -/
def CompletionMark.merge (current : Option CompletionMark) (next : CompletionMark) :
    CompletionMark :=
  match current, next with
  | some notCompleted, _ => notCompleted
  | _, notCompleted => notCompleted
  | _, completed => completed

/-- The row of a section of the course. -/
structure SectionRow where
  /-- The name by which the row looks its section up. -/
  label : Text
  fragments : List Fragment
  status : SectionStatus
  /-- The mark of the activities in the row, if it names any. -/
  completion : Option CompletionMark
deriving Repr, DecidableEq

/-- A line of a table. -/
inductive Line where
  | headerRow (fragments : List Fragment)
  | groupRow (fragments : List Fragment)
  | sectionRow (row : SectionRow)
  | plain (text : Text)
deriving Repr, DecidableEq

end ProgressTable
