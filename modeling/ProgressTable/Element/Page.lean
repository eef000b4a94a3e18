import ProgressTable.Json.Reader

/-!
# Pages

The dimensions of a page in millimetres, and how wide an element may be on it.
-/

namespace ProgressTable

/-- The dimensions of a page. -/
structure Page where
  width : Int64
  leftMargin : Int64
  rightMargin : Int64
deriving Repr, DecidableEq

namespace Page

open Json

/-- Kept free next to the margins. -/
def gutter : Int64 := 10

/-- How wide an element may be. -/
def maxElementWidth (p : Page) : Int64 := p.width - p.leftMargin - p.rightMargin - gutter

/-- How a page is read. A margin goes by two names. -/
def record : Record Page where
  name := "struct PageDimensions".toList
  fields := [
    .needed "width".toList [] int64 fun x p => { p with width := x },
    .needed "left_margin".toList ["leftmargin".toList] int64 fun x p => { p with leftMargin := x },
    .needed "right_margin".toList ["rightmargin".toList] int64 fun x p =>
      { p with rightMargin := x }]
  initial := ⟨0, 0, 0⟩

/-- Reads a page. -/
def ofJson (t : Text) : Except Error Page := readText record.read t

end Page

/-- How wide an element may be on a page that may be unknown; zero is no bound. -/
def maxWidth : Option Page → Int64
  | some p => p.maxElementWidth
  | none => 0

end ProgressTable
