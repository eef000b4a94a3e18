import Mathlib.Tactic
import ProgressTable.Markup.Document
import ProgressTable.Proofs.Journal
import ProgressTable.Proofs.Markup.Cell
import ProgressTable.Proofs.Markup.Question
import ProgressTable.Proofs.Markup.Separator
import ProgressTable.Proofs.Text.Pattern

/-!
# How a document is read

A line is classified by the first pattern that it matches from its start, one equation for each
class; `ReadAs` takes the classes together. A document is read by reading the doubled lines one by
one (`read_eq_mapM`): reading has no other way to know about a line than its own text.
-/

namespace ProgressTable

open Text

/-- The cell that a row begins with. -/
def SectionRow.firstCell (row : SectionRow) : Text :=
  match row.fragments with
  | .sectionCell cell :: _ => cell
  | _ => []

/-- What the row of a section is looked up by: its first cell without the blanks around it. -/
def Line.label? : Line → Option Text
  | .sectionRow row => some (trim row.firstCell)
  | _ => none

namespace Document

variable {backend : Backend} {course : CourseId}

/-! ## Classes of lines -/

theorem readLine_headerRow {line : Text} (h : (delimited? '^' line).isSome) :
    readLine backend course line = pure (.headerRow (Cell.fragments Cell.headerPattern line)) := by
  rw [readLine, if_pos h]

theorem readLine_groupRow {line : Text} (hcaret : delimited? '^' line = none)
    (h : (delimited? '#' line).isSome) :
    readLine backend course line = pure (.groupRow (Cell.fragments Cell.groupPattern line)) := by
  rw [readLine, hcaret, if_neg (by simp), if_pos h]

theorem readLine_sectionRow {line inner rest : Text} (hcaret : delimited? '^' line = none)
    (hhash : delimited? '#' line = none) (h : delimited? '|' line = some (inner, rest)) :
    readLine backend course line
      = .sectionRow <$> readSectionRow backend course (trim inner) line := by
  rw [readLine, hcaret, if_neg (by simp), hhash, if_neg (by simp), h]

theorem readLine_plain {line : Text} (hcaret : delimited? '^' line = none)
    (hhash : delimited? '#' line = none) (hbar : delimited? '|' line = none) :
    readLine backend course line = pure (.plain line) := by
  rw [readLine, hcaret, if_neg (by simp), hhash, if_neg (by simp), hbar]

/-- What a line is read as: a case for each class, with the patterns that decided it. -/
inductive ReadAs (backend : Backend) (course : CourseId) (line : Text) : Journaled Line → Prop
  | headerRow (h : (delimited? '^' line).isSome) :
    ReadAs backend course line (pure (.headerRow (Cell.fragments Cell.headerPattern line)))
  | groupRow (hcaret : delimited? '^' line = none) (h : (delimited? '#' line).isSome) :
    ReadAs backend course line (pure (.groupRow (Cell.fragments Cell.groupPattern line)))
  | sectionRow (hcaret : delimited? '^' line = none) (hhash : delimited? '#' line = none)
    {inner rest : Text} (h : delimited? '|' line = some (inner, rest)) :
    ReadAs backend course line (.sectionRow <$> readSectionRow backend course (trim inner) line)
  | plain (hcaret : delimited? '^' line = none) (hhash : delimited? '#' line = none)
    (hbar : delimited? '|' line = none) : ReadAs backend course line (pure (.plain line))

theorem readAs_readLine (backend : Backend) (course : CourseId) (line : Text) :
    ReadAs backend course line (readLine backend course line) := by
  by_cases hheader : (delimited? '^' line).isSome
  · rw [readLine_headerRow hheader]
    exact .headerRow hheader
  · have hcaret : delimited? '^' line = none := by simpa using hheader
    by_cases hgroup : (delimited? '#' line).isSome
    · rw [readLine_groupRow hcaret hgroup]
      exact .groupRow hcaret hgroup
    · have hhash : delimited? '#' line = none := by simpa using hgroup
      cases hbar : delimited? '|' line with
      | some x =>
        rw [readLine_sectionRow hcaret hhash hbar]
        exact .sectionRow hcaret hhash hbar
      | none =>
        rw [readLine_plain hcaret hhash hbar]
        exact .plain hcaret hhash hbar

/-- The row of a section asks for its status and is cut into its cells. -/
theorem value_readSectionRow (label line : Text) :
    (readSectionRow backend course label line).value
      = { label
          fragments := Cell.fragments Cell.sectionPattern line
          status := (askStatus backend course label).value
          completion := none } := rfl

/-- The row of a section begins with the cell that it is looked up by. -/
theorem firstCell_readSectionRow {line inner rest : Text} (label : Text)
    (h : delimited? '|' line = some (inner, rest)) :
    (readSectionRow backend course label line).value.firstCell = inner := by
  rw [value_readSectionRow, Cell.fragments_of_delimited? (fun _ => rfl) h]
  rfl

/-- Reading a line depends on the course by its answers about sections alone. -/
theorem readLine_congr {backend' : Backend}
    (h : ∀ label, backend.sections course label = backend'.sections course label) (line : Text) :
    readLine backend course line = readLine backend' course line := by
  have hrow (label : Text) : readSectionRow backend course label line
      = readSectionRow backend' course label line := by
    rw [readSectionRow, readSectionRow, askStatus, askStatus, Backend.askSections,
      Backend.askSections, h label]
  simp only [readLine, hrow]

/-! ## Questions about sections -/

theorem calls_askStatus (label : Text) :
    (askStatus backend course label).calls = [.sections course label] := by
  rw [askStatus_eq_asked, Backend.calls_asked]

/-- The row of a section asks for its section, once. -/
theorem calls_readSectionRow (label line : Text) :
    (readSectionRow backend course label line).calls = [.sections course label] := by
  simp only [readSectionRow, Journaled.calls_bind, calls_askStatus, Journaled.calls_log,
    Journaled.calls_pure, List.append_nil]

/-- The row of a section asks for it by its label, and no other line asks anything. -/
theorem calls_readLine (line : Text) :
    (readLine backend course line).calls
      = (readLine backend course line).value.label?.toList.map (.sections course) := by
  have hread := readAs_readLine backend course line
  generalize readLine backend course line = x at hread ⊢
  cases hread with
  | headerRow h => rfl
  | groupRow hcaret h => rfl
  | sectionRow hcaret hhash hcell =>
    rw [Journaled.calls_map, calls_readSectionRow, Journaled.value_map, Line.label?,
      firstCell_readSectionRow _ hcell]
    rfl
  | plain hcaret hhash hbar => rfl

/-! ## Line by line -/

theorem read_eq_mapM (content : Text) :
    read backend course content
      = (lines content).mapM fun l => readLine backend course (Separator.double l) := by
  rw [read, Separator.lines_double, List.mapM_map]
  rfl

end Document
end ProgressTable
