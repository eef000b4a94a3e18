import ProgressTable.Markup.Line
import ProgressTable.Text.Numeral

/-!
# Tables in HTML

A table is written as one row for each row of its lines, with plain text kept as it is, and a line
feed between two lines. The styles stand in the tags because the pages are printed by a renderer
that reads no style sheets.
-/

namespace ProgressTable.Html

/-- Opens a table. -/
def tableOpen : Text := "<table border=\"1\" style=\"width: 100%\">".toList

/-- Closes a table. -/
def tableClose : Text := "</table>".toList

/-- Closes a row. -/
def rowClose : Text := "</tr>".toList

/-- How a row looks. -/
inductive RowStyle where
  | normal
  /-- Italic: the section is hidden. -/
  | hidden
  /-- Red: there is no such section. -/
  | invalid
  /-- Grey: an activity in the row is not completed. -/
  | notCompleted
deriving Repr, DecidableEq

/-- Opens a row of a style. -/
def RowStyle.openTag : RowStyle → Text
  | normal => "<tr style=\"color: black; font-style: normal;\">".toList
  | hidden => "<tr style=\"color: black;font-style: italic;\">".toList
  | invalid => "<tr style=\"color: red; font-style: normal;\">".toList
  | notCompleted => "<tr style=\"color: grey; font-style: normal;\">".toList

/-- The style of a section's row. Outside a preview the rows of hidden and invalid sections are
left out; in a preview the mark is not shown. -/
def sectionStyle? (preview : Bool) (status : SectionStatus)
    (completion : Option CompletionMark) : Option RowStyle :=
  match status, preview with
  | .hidden, true => some .hidden
  | .invalid, true => some .invalid
  | .hidden, false | .invalid, false => none
  | .visible, true => some .normal
  | .visible, false => some (if completion = some .notCompleted then .notCompleted else .normal)

/-- Opens a header cell, up to its width. -/
def headerOpen : Text := "<th style=\"text-align: center; width: ".toList

/-- Stands between the width and the text of a header cell. -/
def headerMiddle : Text := "%;\"><h3>".toList

/-- Closes a header cell. -/
def headerClose : Text := "</h3></th>".toList

/-- Opens a group cell, which takes the whole row. -/
def groupOpen : Text :=
  "<td style=\"word-wrap: break-word; text-align: center\" colspan=\"3\" >".toList

/-- Opens a section cell, with the blanks before its text. -/
def sectionOpen : Text := "<td style=\"word-wrap: break-word; text-align: left\">   ".toList

/-- Closes a group cell or a section cell. -/
def cellClose : Text := "</td>".toList

/-- Writes a cell, or raw text as it is. -/
def fragment : Fragment → Text
  | .headerCell w t => headerOpen ++ Numeral.ofNat w.toNat ++ headerMiddle ++ t ++ headerClose
  | .groupCell t => groupOpen ++ t ++ cellClose
  | .sectionCell t => sectionOpen ++ t ++ cellClose
  | .raw t => t

/-- Writes a row. -/
def row (style : RowStyle) (fs : List Fragment) : Text :=
  style.openTag ++ (fs.map fragment).flatten ++ rowClose

/-- Writes a line; a row that is left out is an empty text. -/
def line (preview : Bool) : Line → Text
  | .headerRow fs | .groupRow fs => row .normal fs
  | .sectionRow r => match sectionStyle? preview r.status r.completion with
    | some style => row style r.fragments
    | none => []
  | .plain t => t

/-- Writes the lines of a table, without the table around them. -/
def body (preview : Bool) (ls : List Line) : Text := Text.ofLines (ls.map (line preview))

/-- Writes a table. -/
def table (preview : Bool) (ls : List Line) : Text :=
  tableOpen ++ body preview ls ++ tableClose

end ProgressTable.Html
