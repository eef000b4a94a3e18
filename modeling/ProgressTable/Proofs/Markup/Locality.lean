import Mathlib.Tactic
import ProgressTable.Lookup.Store
import ProgressTable.Markup.Table
import ProgressTable.Proofs.Markup.Cell
import ProgressTable.Proofs.Markup.Document
import ProgressTable.Proofs.Markup.Html

/-!
# A table is rendered line by line

The passes of rendering work on a whole document, yet no line of the table depends on another one:
`renderTable_lines` says that the table of a document is made of the tables of its lines. The first
step is `Separator.lines_double`; the rest of the pipeline treats a list of lines item by item.

The order of the questions is the one thing that is not line by line, since all sections are asked
for before any activity. Each of the two groups of questions is.

`shownLine` is one line on its way through the whole pipeline. Its characters are followed from the
document to the HTML to count the line feeds of a table.
-/

namespace ProgressTable

open Text

variable (ctx : RenderContext) (dates : DateLabels)

/-! ## One line -/

/-- A line of a document as it is read. -/
def lineRead (l : Text) : Journaled Line :=
  Document.readLine ctx.backend ctx.course (Separator.double l)

/-- The HTML of a line of a document. -/
def shownLine (l : Text) : Text :=
  Html.line ctx.preview (Token.substituteLine ctx dates (lineRead ctx l).value).value

theorem value_read (content : Text) :
    (Document.read ctx.backend ctx.course content).value
      = (lines content).map fun l => (lineRead ctx l).value := by
  rw [Document.read_eq_mapM, Journaled.value_mapM]
  rfl

theorem calls_read (content : Text) :
    (Document.read ctx.backend ctx.course content).calls
      = (lines content).flatMap fun l => (lineRead ctx l).calls := by
  rw [Document.read_eq_mapM, Journaled.calls_mapM]
  rfl

/-! ## All lines -/

/-- The HTML of a document is the HTML of its lines, between the two ends of a table. -/
theorem value_renderTable (content : Text) :
    (renderTable ctx dates content).value
      = Html.tableOpen ++ ofLines ((lines content).map (shownLine ctx dates))
        ++ Html.tableClose := by
  simp only [renderTable, Journaled.value_bind, Journaled.value_pure, Token.substituteLines,
    Journaled.value_mapM, value_read, Html.table, Html.body, List.map_map]
  rfl

theorem calls_renderTable (content : Text) :
    (renderTable ctx dates content).calls
      = ((lines content).flatMap fun l => (lineRead ctx l).calls)
        ++ (lines content).flatMap fun l =>
          (Token.substituteLine ctx dates (lineRead ctx l).value).calls := by
  simp only [renderTable, Journaled.calls_bind, Journaled.calls_pure, Token.substituteLines,
    Journaled.calls_mapM, calls_read, value_read, List.flatMap_map, List.append_nil]

/-- A question about the sections of a course. -/
def Call.isSections : Call → Bool
  | .sections _ _ => true
  | _ => false

theorem isSections_of_mem_calls_lineRead (l : Text) :
    ∀ c ∈ (lineRead ctx l).calls, c.isSections = true := by
  intro c hc
  rw [lineRead, Document.calls_readLine] at hc
  obtain ⟨label, -, rfl⟩ := List.mem_map.1 hc
  rfl

theorem not_isSections_of_mem_calls_substituteLine (line : Line) :
    ∀ c ∈ (Token.substituteLine ctx dates line).calls, c.isSections = false := by
  intro c hc
  rw [Token.calls_substituteLine] at hc
  obtain ⟨t, -, hc⟩ := List.mem_flatMap.1 hc
  have htoken := Token.isTokenCall_of_mem_substitute c hc
  cases c with
  | sections course label => exact absurd rfl (htoken course label)
  | activity id => rfl
  | completion id user => rfl

/-- The questions of a single line: first about its section, then about its activities. -/
theorem filter_calls_renderTable {l : Text} (h : '\n' ∉ l) :
    (renderTable ctx dates l).calls.filter Call.isSections = (lineRead ctx l).calls
      ∧ (renderTable ctx dates l).calls.filter (fun c => !c.isSections)
        = (Token.substituteLine ctx dates (lineRead ctx l).value).calls := by
  have hread := isSections_of_mem_calls_lineRead ctx l
  have hsub := not_isSections_of_mem_calls_substituteLine ctx dates (lineRead ctx l).value
  rw [calls_renderTable, lines_of_not_mem h, List.flatMap_singleton, List.flatMap_singleton,
    List.filter_append, List.filter_append]
  -- the two kinds of questions are told apart by their constructor
  have hnone : (Token.substituteLine ctx dates (lineRead ctx l).value).calls.filter
      Call.isSections = [] := by
    rw [List.filter_eq_nil_iff]
    intro c hc
    simp [hsub c hc]
  have hall : (Token.substituteLine ctx dates (lineRead ctx l).value).calls.filter
      (fun c => !c.isSections) = (Token.substituteLine ctx dates (lineRead ctx l).value).calls := by
    rw [List.filter_eq_self]
    intro c hc
    simp [hsub c hc]
  have hnone' : (lineRead ctx l).calls.filter (fun c => !c.isSections) = [] := by
    rw [List.filter_eq_nil_iff]
    intro c hc
    simp [hread c hc]
  constructor
  · rw [List.filter_eq_self.2 hread, hnone, List.append_nil]
  · rw [hnone', hall, List.nil_append]

/-! ## Line feeds -/

/-- The labels that replace tokens anywhere in a document. -/
def substitutedLabels (content : Text) : List Text :=
  (Document.read ctx.backend ctx.course content).value.flatMap fun line =>
    line.texts.flatMap (Token.labels ctx dates)

/-- A character that is not in a line of a document is in no text of the line as it is read. -/
theorem not_mem_texts_lineRead {d : Char} {l : Text} (h : d ∉ l) :
    ∀ t ∈ (lineRead ctx l).value.texts, d ∉ t := by
  have hdouble := Separator.not_mem_double h
  -- the texts of a row are those of its fragments
  have hrow : ∀ fs : List Fragment, (∀ f ∈ fs, d ∉ f.text) →
      ∀ t ∈ fs.map Fragment.text, d ∉ t := by
    intro fs hfs t ht
    obtain ⟨f, hf, rfl⟩ := List.mem_map.1 ht
    exact hfs f hf
  have hread := Document.readAs_readLine ctx.backend ctx.course (Separator.double l)
  rw [lineRead]
  generalize Document.readLine ctx.backend ctx.course (Separator.double l) = x at hread ⊢
  cases hread with
  | headerRow => exact hrow _ (Cell.not_mem_of_mem_headerFragments hdouble)
  | groupRow => exact hrow _ (Cell.not_mem_of_mem_groupFragments hdouble)
  | sectionRow => exact hrow _ (Cell.not_mem_of_mem_sectionFragments hdouble)
  | plain =>
    intro t ht
    rw [List.mem_singleton.1 ht]
    exact hdouble

/-- A line is shown without a line feed unless a label brings one. -/
theorem newline_not_mem_shownLine {l : Text} (h : '\n' ∉ l)
    (hlabels : ∀ s ∈ (lineRead ctx l).value.texts.flatMap (Token.labels ctx dates), '\n' ∉ s) :
    '\n' ∉ shownLine ctx dates l := by
  apply Html.newline_not_mem_line
  rw [Token.texts_substituteLine]
  intro t ht
  obtain ⟨u, hu, rfl⟩ := List.mem_map.1 ht
  have hmarker : '\n' ∉ Token.invalidActivity :=
    Html.newline_not_mem_literal String.toList_ofList (by decide)
  exact Token.not_mem_substitute (not_mem_texts_lineRead ctx h u hu) hmarker
    fun s hs => hlabels s (List.mem_flatMap.2 ⟨u, hu, hs⟩)

/-- As many line feeds stand in a table as in its document, if no label holds one. -/
theorem count_newline_renderTable (content : Text)
    (hlabels : ∀ s ∈ substitutedLabels ctx dates content, '\n' ∉ s) :
    (renderTable ctx dates content).value.count '\n' = content.count '\n' := by
  have hshown : ∀ l ∈ lines content, (shownLine ctx dates l).count '\n' = l.count '\n' := by
    intro l hl
    have hfree := newline_not_mem_of_mem_lines content l hl
    rw [List.count_eq_zero_of_not_mem hfree, List.count_eq_zero_of_not_mem]
    refine newline_not_mem_shownLine ctx dates hfree fun s hs => hlabels s ?_
    rw [substitutedLabels, value_read, List.flatMap_map]
    exact List.mem_flatMap.2 ⟨l, hl, hs⟩
  have hne := lines_ne_nil content
  have hne' : (lines content).map (shownLine ctx dates) ≠ [] := by simpa using hne
  have hout := count_ofLines hne'
  have hin := count_ofLines hne
  -- `count_ofLines` counts one line feed behind every line, on both sides
  have hsame : ((lines content).map (shownLine ctx dates)).map (fun l => l.count '\n' + 1)
      = (lines content).map fun l => l.count '\n' + 1 := by
    rw [List.map_map]
    apply List.map_congr_left
    intro l hl
    simp only [Function.comp_apply, hshown l hl]
  have hopen : Html.tableOpen.count '\n' = 0 := List.count_eq_zero_of_not_mem
    (Html.newline_not_mem_literal String.toList_ofList (by decide))
  have hclose : Html.tableClose.count '\n' = 0 := List.count_eq_zero_of_not_mem
    (Html.newline_not_mem_literal String.toList_ofList (by decide))
  rw [hsame, ← hin, ofLines_lines] at hout
  rw [value_renderTable, List.count_append, List.count_append, hopen, hclose]
  omega

/-! ## The table of a document -/

/-- The table of a document is made of the tables of its lines: the HTML, the lines that are read,
the questions about sections and those about activities. The line feeds are those of the document
if no label brings one. -/
theorem renderTable_lines (content : Text) :
    let shown (l : Text) : Text := Html.inside (renderTable ctx dates l).value
    (∀ l ∈ lines content,
      (renderTable ctx dates l).value = Html.tableOpen ++ shown l ++ Html.tableClose)
    ∧ (renderTable ctx dates content).value
      = Html.tableOpen ++ ofLines ((lines content).map shown) ++ Html.tableClose
    ∧ (Document.read ctx.backend ctx.course content).value
      = (lines content).flatMap (fun l => (Document.read ctx.backend ctx.course l).value)
    ∧ (renderTable ctx dates content).calls
      = (lines content).flatMap (fun l => (renderTable ctx dates l).calls.filter Call.isSections)
        ++ (lines content).flatMap
          (fun l => (renderTable ctx dates l).calls.filter (fun c => !c.isSections))
    ∧ ((∀ s ∈ substitutedLabels ctx dates content, '\n' ∉ s) →
      (renderTable ctx dates content).value.count '\n' = content.count '\n') := by
  intro shown
  have hfree := newline_not_mem_of_mem_lines content
  have hline : ∀ l ∈ lines content,
      (renderTable ctx dates l).value
        = Html.tableOpen ++ shownLine ctx dates l ++ Html.tableClose := by
    intro l hl
    rw [value_renderTable, lines_of_not_mem (hfree l hl), List.map_singleton, ofLines_singleton]
  have hshown : ∀ l ∈ lines content, shown l = shownLine ctx dates l := by
    intro l hl
    show Html.inside (renderTable ctx dates l).value = _
    rw [hline l hl, Html.inside_append]
  refine ⟨?_, ?_, ?_, ?_, count_newline_renderTable ctx dates content⟩
  · intro l hl
    rw [hshown l hl, hline l hl]
  · rw [value_renderTable, List.map_congr_left hshown]
  · rw [value_read, List.map_eq_flatMap]
    apply List.flatMap_congr
    intro l hl
    rw [value_read, lines_of_not_mem (hfree l hl), List.map_singleton]
  · rw [calls_renderTable]
    congr 1
    · apply List.flatMap_congr
      intro l hl
      exact (filter_calls_renderTable ctx dates (hfree l hl)).1.symm
    · apply List.flatMap_congr
      intro l hl
      exact (filter_calls_renderTable ctx dates (hfree l hl)).2.symm

/-- A group and a section with a completed activity: the label of the completion has no line feed,
and the table has the one line feed of its document. -/
theorem renderTable_lines_group :
    let ctx : RenderContext := ⟨7, 1, false,
      ((Store.empty.addActivity ['4']).addCompletion ['4'] 7 50).backend⟩
    let dates : DateLabels := ⟨[⟨0, 99, "early".toList, true⟩], [], fun _ => "date".toList⟩
    let content : Text := "#Term 1#\n| Week 1 | \x7bcompletion:4\x7d |".toList
    (∀ s ∈ substitutedLabels ctx dates content, '\n' ∉ s)
      ∧ (renderTable ctx dates content).value.count '\n' = content.count '\n' := by
  intro ctx dates content
  have h : ∀ s ∈ substitutedLabels ctx dates content, '\n' ∉ s := by decide +kernel
  exact ⟨h, (renderTable_lines ctx dates content).2.2.2.2 h⟩

end ProgressTable
