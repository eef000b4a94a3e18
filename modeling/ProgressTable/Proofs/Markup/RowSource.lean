import Mathlib.Tactic
import ProgressTable.Proofs.Markup.Document
import ProgressTable.Proofs.Text.Numeral

/-!
# Fragments and the line they were cut from

The fragments of a row, written as they stood in it, are the row again (`RowSource.parts`): a cell
of a group or a section has one way to be written, while a header cell may leave out its first colon
and may write its width with zeros in front. Raw text is what is left, and no complete cell stands
in it (`RowSource.complete`); the one exception is a header cell that was found and whose digits are
no width.

All of this is read off what the three patterns recognise (`RowKind.recognises`), and
`fragments_make_lines` says it of every row of a document, as it is after its separators have been
doubled.
-/

namespace ProgressTable

open Text

/-- The kinds of lines that are cut into fragments. -/
inductive RowKind where
  | header
  | group
  /-- The row of a section of the course. -/
  | course
deriving DecidableEq

/-- The kind of a row and its fragments. -/
def Line.row? : Line → Option (RowKind × List Fragment)
  | .headerRow fs => some (.header, fs)
  | .groupRow fs => some (.group, fs)
  | .sectionRow row => some (.course, row.fragments)
  | .plain _ => none

/-! ## Cells and what they are written as -/

/-- Digits `0` to `9` of this value, with any number of zeros in front. -/
def IsWidth (digits : Text) (width : UInt32) : Prop :=
  ∃ zeros, digits = List.replicate zeros '0' ++ Numeral.ofNat width.toNat

/-- A header cell with digits that are no width, and nothing behind its first closing caret. -/
def IsUnsizedCell (t : Text) : Prop :=
  ∃ digits inner, Cell.IsHeaderCell digits inner t ∧ '^' ∉ inner.tail
    ∧ ∀ width, ¬ IsWidth digits width

/-- How a fragment may have been written in a row of this kind. -/
inductive Fragment.WrittenAs : RowKind → Fragment → Text → Prop
  | headerCell {width : UInt32} {digits inner part : Text}
    (hcell : Cell.IsHeaderCell digits inner part) (hwidth : IsWidth digits width) :
    WrittenAs .header (.headerCell width inner) part
  | groupCell (inner : Text) : WrittenAs .group (.groupCell inner) ('#' :: inner ++ ['#'])
  | sectionCell (inner : Text) : WrittenAs .course (.sectionCell inner) ('|' :: inner ++ ['|'])
  | raw (kind : RowKind) (t : Text) : WrittenAs kind (.raw t) t

namespace RowKind

/-- A complete cell of a row of this kind. -/
def IsCell : RowKind → Text → Prop
  | header, u => ∃ digits inner, Cell.IsHeaderCell digits inner u
  | group, u => ∃ inner, inner ≠ [] ∧ u = '#' :: inner ++ ['#']
  | course, u => ∃ inner, inner ≠ [] ∧ u = '|' :: inner ++ ['|']

/-- The pattern by which a row of this kind is cut. -/
def cells : RowKind → Pattern Fragment
  | header => Cell.headerPattern
  | group => Cell.groupPattern
  | course => Cell.sectionPattern

/-- What the pattern of a kind finds, and in which texts. -/
def source : RowKind → Fragment → Text → Prop
  | header => Cell.HeaderSource
  | group => Cell.DelimitedSource '#' .groupCell
  | course => Cell.DelimitedSource '|' .sectionCell

theorem recognises (kind : RowKind) : kind.cells.Recognises kind.source := by
  cases kind with
  | header => exact Cell.recognises_headerPattern
  | group => exact Cell.recognises_groupPattern
  | course => exact Cell.recognises_sectionPattern

/-- Wherever a complete cell stands, the pattern finds a cell. -/
theorem match?_append_ne_none {kind : RowKind} {u : Text} (h : kind.IsCell u) (r : Text) :
    kind.cells.match? (u ++ r) ≠ none := by
  -- the cell that is found ends at the first delimiter that may close it
  obtain ⟨f, part, rest, hpart, he⟩ :
      ∃ f part rest, kind.source f part ∧ u = part ++ rest := by
    cases kind with
    | header =>
      obtain ⟨digits, inner, hne, hdigits, hinner, he⟩ := h
      obtain ⟨first, more, hfirst, htail, hclosed⟩ := exists_closed (d := '^') hinner
      rcases he with rfl | rfl
      · exact ⟨_, _, more, ⟨digits, first, ⟨hne, hdigits, hfirst, .inl rfl⟩, htail, rfl⟩,
          by simp [hclosed]⟩
      · exact ⟨_, _, more, ⟨digits, first, ⟨hne, hdigits, hfirst, .inr rfl⟩, htail, rfl⟩,
          by simp [hclosed]⟩
    | group =>
      obtain ⟨inner, hinner, rfl⟩ := h
      obtain ⟨first, more, hfirst, htail, hclosed⟩ := exists_closed (d := '#') hinner
      exact ⟨_, _, more, ⟨first, hfirst, htail, rfl, rfl⟩, by simp [hclosed]⟩
    | course =>
      obtain ⟨inner, hinner, rfl⟩ := h
      obtain ⟨first, more, hfirst, htail, hclosed⟩ := exists_closed (d := '|') hinner
      exact ⟨_, _, more, ⟨first, hfirst, htail, rfl, rfl⟩, by simp [hclosed]⟩
  have hmatch := (kind.recognises (u ++ r) f (rest ++ r)).2
    ⟨part, hpart, by rw [he, List.append_assoc]⟩
  rw [hmatch]
  exact Option.some_ne_none _

/-- The digits of a header cell are read as a width just if they are one. -/
theorem readUInt32?_eq_some_iff {digits inner part : Text}
    (h : Cell.IsHeaderCell digits inner part) (width : UInt32) :
    Numeral.readUInt32? digits = some width ↔ IsWidth digits width := by
  apply Numeral.readUInt32?_eq_some_iff
  intro hplus
  exact absurd (h.isDecimalDigit _ (List.mem_of_head? hplus)) (by decide)

/-- A cell that is found stands for the text that it was found in. -/
theorem writtenAs_of_source {kind : RowKind} {f : Fragment} {part : Text}
    (h : kind.source f part) : f.WrittenAs kind part ∧ f.text ≠ []
      ∧ ∀ t, f = .raw t → kind = .header ∧ IsUnsizedCell t := by
  cases kind with
  | header =>
    obtain ⟨digits, inner, hcell, htail, rfl⟩ := h
    rw [Cell.headerFragment]
    split
    · next width hwidth =>
      exact ⟨.headerCell hcell ((readUInt32?_eq_some_iff hcell width).1 hwidth),
        hcell.inner_ne_nil, fun t he => by cases he⟩
    · next hwidth =>
      refine ⟨.raw .header part, ?_, ?_⟩
      · show part ≠ []
        rcases hcell.eq_or_eq with rfl | rfl <;> simp
      · rintro t ⟨⟩
        refine ⟨rfl, digits, inner, hcell, htail, fun width hw => ?_⟩
        rw [(readUInt32?_eq_some_iff hcell width).2 hw] at hwidth
        cases hwidth
  | group =>
    obtain ⟨inner, hne, -, rfl, rfl⟩ := h
    exact ⟨.groupCell inner, hne, fun t he => by cases he⟩
  | course =>
    obtain ⟨inner, hne, -, rfl, rfl⟩ := h
    exact ⟨.sectionCell inner, hne, fun t he => by cases he⟩

end RowKind

/-! ## The fragments of a row -/

/-- What the fragments of a row are to the line that the row was cut from. -/
structure RowSource (kind : RowKind) (line : Text) (fs : List Fragment) : Prop where
  /-- Written one behind the other, as they stood there, the fragments are the line. -/
  parts : ∃ parts, List.Forall₂ (Fragment.WrittenAs kind) fs parts ∧ parts.flatten = line
  text_ne_nil : ∀ f ∈ fs, f.text ≠ []
  newline_not_mem : ∀ f ∈ fs, '\n' ∉ f.text
  /-- No complete cell is left in raw text. -/
  complete : ∀ t, .raw t ∈ fs → (kind = .header ∧ IsUnsizedCell t) ∨ ∀ u, u <:+: t → ¬ kind.IsCell u
  /-- The row of a group or a section begins with a cell. -/
  first : kind ≠ .header → ∃ f rest, fs = f :: rest ∧ ∀ t, f ≠ .raw t

namespace RowSource

variable {kind : RowKind} {line : Text}

theorem parts_fragments (kind : RowKind) (line : Text) :
    ∃ parts, List.Forall₂ (fun f part => f.text ≠ [] ∧ f.WrittenAs kind part)
      (Cell.fragments kind.cells line) parts ∧ parts.flatten = line := by
  obtain ⟨parts, hparts, hline⟩ := Pattern.exists_parts kind.recognises line
  refine ⟨parts, ?_, hline⟩
  rw [Cell.fragments, List.forall₂_map_left_iff]
  refine hparts.imp fun x part hx => ?_
  cases hx with
  | verbatim hne => exact ⟨hne, .raw kind part⟩
  | found h =>
    obtain ⟨hwritten, hne, -⟩ := RowKind.writtenAs_of_source h
    exact ⟨hne, hwritten⟩

/-- A fragment that is raw text was left between two cells or is a header cell of no width. -/
theorem complete_fragments {t : Text} (h : .raw t ∈ Cell.fragments kind.cells line) :
    (kind = .header ∧ IsUnsizedCell t) ∨ ∀ u, u <:+: t → ¬ kind.IsCell u := by
  obtain ⟨x, hx, he⟩ := List.mem_map.1 h
  cases x with
  | verbatim s =>
    obtain rfl : s = t := Fragment.raw.inj he
    obtain ⟨rest, hnone⟩ := Pattern.noneIn_of_mem_pieces line hx
    right
    rintro u ⟨a, b, rfl⟩ hcell
    -- where the cell stands its pattern would have found one
    have hne : u ++ b ≠ [] := by
      intro hnil
      have hmatch := RowKind.match?_append_ne_none hcell []
      rw [(List.append_eq_nil_iff.1 hnil).1] at hmatch
      exact hmatch (Pattern.match?_nil _)
    have hsuffix : u ++ b <:+ a ++ u ++ b := ⟨a, by rw [List.append_assoc]⟩
    have hmatch := hnone (u ++ b) hne hsuffix
    rw [List.append_assoc] at hmatch
    exact RowKind.match?_append_ne_none hcell _ hmatch
  | found f =>
    obtain rfl : f = .raw t := he
    obtain ⟨part, hpart⟩ := Pattern.exists_source_of_mem_pieces kind.recognises hx
    exact .inl ((RowKind.writtenAs_of_source hpart).2.2 t rfl)

theorem newline_not_mem_fragments (h : '\n' ∉ line) :
    ∀ f ∈ Cell.fragments kind.cells line, '\n' ∉ f.text := by
  cases kind with
  | header => exact Cell.not_mem_of_mem_headerFragments h
  | group => exact Cell.not_mem_of_mem_groupFragments h
  | course => exact Cell.not_mem_of_mem_sectionFragments h

theorem of_fragments (hline : '\n' ∉ line)
    (hfirst : kind ≠ .header →
      ∃ f rest, Cell.fragments kind.cells line = f :: rest ∧ ∀ t, f ≠ .raw t) :
    RowSource kind line (Cell.fragments kind.cells line) := by
  obtain ⟨parts, hparts, hflatten⟩ := parts_fragments kind line
  exact {
    parts := ⟨parts, hparts.imp fun _ _ h => h.2, hflatten⟩
    text_ne_nil := ((List.forall₂_and_left _ _).1 hparts).1
    newline_not_mem := newline_not_mem_fragments hline
    complete := fun _ => complete_fragments
    first := hfirst }

end RowSource

/-! ## The rows of a document -/

/-- A line that is read as a row is cut into the fragments of the row. -/
theorem Document.rowSource_readLine (backend : Backend) (course : CourseId) {line : Text}
    (hline : '\n' ∉ line) {kind : RowKind} {fs : List Fragment}
    (h : (readLine backend course line).value.row? = some (kind, fs)) :
    RowSource kind line fs := by
  have hread := readAs_readLine backend course line
  generalize readLine backend course line = x at hread h
  cases hread with
  | headerRow =>
    cases h
    exact .of_fragments hline fun hheader => absurd rfl hheader
  | groupRow hcaret hhash =>
    cases h
    obtain ⟨⟨inner, rest⟩, hcell⟩ := Option.isSome_iff_exists.1 hhash
    exact .of_fragments hline fun _ => ⟨.groupCell inner, _,
      Cell.fragments_of_delimited? (fun _ => rfl) hcell, fun t he => by cases he⟩
  | @sectionRow hcaret hhash inner rest hcell =>
    cases h
    exact .of_fragments hline fun _ => ⟨.sectionCell inner, _,
      Cell.fragments_of_delimited? (fun _ => rfl) hcell, fun t he => by cases he⟩
  | plain => cases h

/-- The row of a section is looked up by its first cell. -/
theorem Document.label_readLine (backend : Backend) (course : CourseId) {line : Text}
    {row : SectionRow} (h : (readLine backend course line).value = .sectionRow row) :
    ∃ cell rest, row.fragments = .sectionCell cell :: rest ∧ row.label = trim cell := by
  have hread := readAs_readLine backend course line
  generalize readLine backend course line = x at hread h
  cases hread with
  | headerRow => cases h
  | groupRow => cases h
  | @sectionRow hcaret hhash inner rest hcell =>
    rw [Journaled.value_map, value_readSectionRow] at h
    cases h
    exact ⟨inner, _, Cell.fragments_of_delimited? (fun _ => rfl) hcell, rfl⟩
  | plain => cases h

/-- Whatever the text of a document, the fragments of each of its rows make up the line of the row,
separators doubled, with nothing lost, repeated or out of order, and the raw text among them holds
no cell of the row. The label of a section is the first cell of its row without the blanks around
it. -/
theorem fragments_make_lines (backend : Backend) (course : CourseId) (content : Text) :
    List.Forall₂
      (fun line read =>
        (∀ kind fs, read.row? = some (kind, fs) → RowSource kind line fs)
        ∧ ∀ row, read = .sectionRow row →
          ∃ cell rest, row.fragments = .sectionCell cell :: rest ∧ row.label = trim cell)
      (lines (Separator.double content)) (Document.read backend course content).value := by
  rw [Document.read, Journaled.value_mapM, List.forall₂_map_right_iff, List.forall₂_same]
  intro line hline
  exact ⟨fun kind fs => Document.rowSource_readLine backend course
      (newline_not_mem_of_mem_lines _ line hline),
    fun row => Document.label_readLine backend course⟩

end ProgressTable
