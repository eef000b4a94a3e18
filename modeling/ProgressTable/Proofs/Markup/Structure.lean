import Mathlib.Tactic
import ProgressTable.Lookup.Store
import ProgressTable.Proofs.Markup.Locality
import ProgressTable.Proofs.Markup.Tag

/-!
# Labels and the structure of a table

A label is an author's text and may look like markup. It is put into lines that are classified
already and is not read again, so it changes texts and nothing else: the lines without their texts
(`Line.blank`) are the same before and after the tokens are replaced, up to the marks of rows.

In the HTML this is a statement about two renderings for which the course answers alike, whoever
they are for and whatever labels they show: as long as no text holds a `<`, they have the same tags,
and only the opening of a row may be grey in the one and black in the other
(`substitution_keeps_structure`).
-/

namespace ProgressTable

open Text

/-! ## Lines without their texts -/

/-- A line without its texts. -/
def Line.blank : Line → Line
  | .headerRow fs => .headerRow (fs.map (Fragment.withText []))
  | .groupRow fs => .groupRow (fs.map (Fragment.withText []))
  | .sectionRow row =>
    .sectionRow { row with fragments := row.fragments.map (Fragment.withText []) }
  | .plain _ => .plain []

/-- A line without its mark. -/
def Line.unmarked : Line → Line
  | .sectionRow row => .sectionRow { row with completion := none }
  | line => line

section

variable (ctx : RenderContext) (dates : DateLabels)

theorem Fragment.blank_shown (f : Fragment) : (f.shown ctx dates).withText [] = f.withText [] := by
  cases f <;> rfl

theorem Fragment.map_blank_shown (fs : List Fragment) :
    (fs.map (Fragment.shown ctx dates)).map (Fragment.withText [])
      = fs.map (Fragment.withText []) := by
  rw [List.map_map]
  exact List.map_congr_left fun f _ => f.blank_shown ctx dates

/-- Besides texts, replacing tokens changes the mark of a section's row, and nothing in a preview.
-/
theorem Line.blank_substituteLine (line : Line) :
    (Token.substituteLine ctx dates line).value.blank.unmarked = line.blank.unmarked
    ∧ (ctx.preview = true → (Token.substituteLine ctx dates line).value.blank = line.blank) := by
  cases line with
  | headerRow fs =>
    rw [Token.value_substituteLine_headerRow, Line.blank, Fragment.map_blank_shown]
    exact ⟨rfl, fun _ => rfl⟩
  | groupRow fs =>
    rw [Token.value_substituteLine_groupRow, Line.blank, Fragment.map_blank_shown]
    exact ⟨rfl, fun _ => rfl⟩
  | sectionRow row =>
    rw [Token.value_substituteLine_sectionRow]
    simp only [Line.blank, Line.unmarked, Fragment.map_blank_shown, true_and]
    intro hpreview
    rw [if_pos hpreview]
  | plain t => exact ⟨rfl, fun _ => rfl⟩

end

/-! ## Two renderings -/

section

variable {ctx ctx' : RenderContext} {dates dates' : DateLabels}

namespace Token

/-- Neither a text nor a label that is put into it holds a `<`. -/
def Tagless (ctx : RenderContext) (dates : DateLabels) (t : Text) : Prop :=
  '<' ∉ t ∧ ∀ s ∈ labels ctx dates t, '<' ∉ s

theorem sameTags_invalidActivity : Html.SameTags invalidActivity invalidActivity := by
  have h : invalidActivity = _ := String.toList_ofList
  rw [h]
  let text : Text := [' ', 'I', 'n', 'v', 'a', 'l', 'i', 'd', ' ', 'I', 'D', ' ']
  have htext : Html.SameTags text text := .of_not_mem (by decide) (by decide)
  exact .of_rest rfl (htext.append (.tag rfl))

/-- A text shows the same tags in two renderings for which the same activities exist. -/
theorem sameTags_substitute
    (hactivities : ∀ id, ctx.backend.activityExists id = ctx'.backend.activityExists id) {t : Text}
    (h : Tagless ctx dates t) (h' : Tagless ctx' dates' t) :
    Html.SameTags (substitute ctx dates t).value.1 (substitute ctx' dates' t).value.1 := by
  rw [value_substitute, value_substitute]
  apply Html.SameTags.flatMap
  intro x hx
  have havoid : Piece.Avoids '<' (fun _ => True) x :=
    Pattern.avoids_of_mem_pieces (fun t id rest hd h => ⟨trivial, not_mem_of_pattern hd h⟩) t h.1 x
      hx
  cases x with
  | verbatim s => exact .of_not_mem havoid havoid
  | found id =>
    rw [replacement_found, replacement_found, value_resolve, value_resolve, ← hactivities id]
    by_cases hactivity : ctx.backend.activityExists id = .ok true
    · have hactivity' := (hactivities id).symm.trans hactivity
      rw [if_pos hactivity, if_pos hactivity]
      exact .of_not_mem (h.2 _ (mem_labels hx hactivity)) (h'.2 _ (mem_labels hx hactivity'))
    · -- the marker of an unknown activity brings its own tags, in both renderings
      rw [if_neg hactivity, if_neg hactivity]
      exact sameTags_invalidActivity

theorem sameTags_fragments
    (hactivities : ∀ id, ctx.backend.activityExists id = ctx'.backend.activityExists id)
    {fs : List Fragment} (h : ∀ t ∈ fs.map Fragment.text, Tagless ctx dates t)
    (h' : ∀ t ∈ fs.map Fragment.text, Tagless ctx' dates' t) :
    Html.SameTags ((fs.map (Fragment.shown ctx dates)).map Html.fragment).flatten
      ((fs.map (Fragment.shown ctx' dates')).map Html.fragment).flatten := by
  rw [List.map_map, List.map_map, ← List.flatMap_def, ← List.flatMap_def]
  apply Html.SameTags.flatMap
  intro f hf
  have ht := List.mem_map_of_mem (f := Fragment.text) hf
  exact Html.sameTags_fragment (sameTags_substitute hactivities (h _ ht) (h' _ ht)) f

/-- A line shows the same tags in two renderings for which the same activities exist, but its row
may be grey in one of them. -/
theorem sameTags_line
    (hactivities : ∀ id, ctx.backend.activityExists id = ctx'.backend.activityExists id)
    (hoff : ctx.preview = false) (hoff' : ctx'.preview = false) {line : Line}
    (h : ∀ t ∈ line.texts, Tagless ctx dates t) (h' : ∀ t ∈ line.texts, Tagless ctx' dates' t) :
    Html.SameTags (Html.line ctx.preview (substituteLine ctx dates line).value)
      (Html.line ctx'.preview (substituteLine ctx' dates' line).value) := by
  cases line with
  | headerRow fs =>
    rw [value_substituteLine_headerRow, value_substituteLine_headerRow]
    exact Html.sameTags_row rfl (sameTags_fragments hactivities h h')
  | groupRow fs =>
    rw [value_substituteLine_groupRow, value_substituteLine_groupRow]
    exact Html.sameTags_row rfl (sameTags_fragments hactivities h h')
  | sectionRow row =>
    have hfs := sameTags_fragments hactivities h h'
    have hstyle (mark : Option CompletionMark) : Html.plainTag
        (if mark = some .notCompleted then Html.RowStyle.notCompleted else .normal).openTag
        = Html.plainTag Html.RowStyle.normal.openTag := by
      split
      · exact Html.plainTag_notCompleted
      · rfl
    rw [value_substituteLine_sectionRow, value_substituteLine_sectionRow, Html.line, Html.line,
      hoff, hoff']
    -- the status is the same, so the row is left out of both tables or of none
    cases row.status with
    | visible => exact Html.sameTags_row ((hstyle _).trans (hstyle _).symm) hfs
    | hidden => exact .nil
    | invalid => exact .nil
  | plain t =>
    exact sameTags_substitute hactivities (h t List.mem_cons_self) (h' t List.mem_cons_self)

end Token

/-- The texts of a line that was read, and the labels that are put into them, hold no `<` if the
document holds none and no label does. -/
theorem tagless_lineRead {content : Text} (hcontent : '<' ∉ content)
    (hlabels : ∀ s ∈ substitutedLabels ctx dates content, '<' ∉ s) {l : Text}
    (hl : l ∈ lines content) : ∀ t ∈ (lineRead ctx l).value.texts, Token.Tagless ctx dates t := by
  intro t ht
  refine ⟨not_mem_texts_lineRead ctx (not_mem_of_mem_lines hcontent l hl) t ht, ?_⟩
  intro s hs
  apply hlabels s
  rw [substitutedLabels, value_read, List.flatMap_map]
  exact List.mem_flatMap.2 ⟨l, hl, List.mem_flatMap.2 ⟨t, ht, hs⟩⟩

end

/-- Replacing tokens keeps the lines, their kinds, fragments, widths, labels and statuses, and in a
preview the marks of rows: only texts are changed, and the marks outside a preview. So if no text
holds a `<`, two tables of one document for which the course answers alike about sections and
activities have the same tags, but for rows that are grey in the one and black in the other, however
completions are answered and labelled. -/
theorem substitution_keeps_structure :
    (∀ (ctx : RenderContext) (dates : DateLabels) (ls : List Line),
      (Token.substituteLines ctx dates ls).value.map (fun line => line.blank.unmarked)
        = ls.map (fun line => line.blank.unmarked)
      ∧ (ctx.preview = true →
        (Token.substituteLines ctx dates ls).value.map Line.blank = ls.map Line.blank))
    ∧ ∀ (ctx ctx' : RenderContext) (dates dates' : DateLabels) (content : Text),
      ctx.preview = false → ctx'.preview = false → ctx.course = ctx'.course →
      (∀ label, ctx.backend.sections ctx.course label = ctx'.backend.sections ctx'.course label) →
      (∀ id, ctx.backend.activityExists id = ctx'.backend.activityExists id) →
      '<' ∉ content → (∀ s ∈ substitutedLabels ctx dates content, '<' ∉ s) →
      (∀ s ∈ substitutedLabels ctx' dates' content, '<' ∉ s) →
      (Html.tags (renderTable ctx dates content).value).map Html.plainTag
        = (Html.tags (renderTable ctx' dates' content).value).map Html.plainTag := by
  constructor
  · intro ctx dates ls
    rw [Token.substituteLines, Journaled.value_mapM, List.map_map, List.map_map]
    constructor
    · exact List.map_congr_left fun line _ => (Line.blank_substituteLine ctx dates line).1
    · intro hpreview
      exact List.map_congr_left fun line _ => (Line.blank_substituteLine ctx dates line).2 hpreview
  · intro ctx ctx' dates dates' content hoff hoff' hcourse hsections hactivities hcontent hlabels
      hlabels'
    have hread (l : Text) : lineRead ctx' l = lineRead ctx l := by
      rw [lineRead, lineRead, ← hcourse]
      rw [← hcourse] at hsections
      exact Document.readLine_congr (fun label => (hsections label).symm) _
    have hlines : Html.SameTags (ofLines ((lines content).map (shownLine ctx dates)))
        (ofLines ((lines content).map (shownLine ctx' dates'))) := by
      apply Html.SameTags.ofLines
      intro l hl
      have htexts := tagless_lineRead hcontent hlabels hl
      have htexts' := tagless_lineRead hcontent hlabels' hl
      rw [shownLine, shownLine, hread l]
      rw [hread l] at htexts'
      exact Token.sameTags_line hactivities hoff hoff' htexts htexts'
    rw [value_renderTable, value_renderTable]
    exact (Html.sameTags_table hlines).outline_eq

/-- A completion with a label that looks like a group, a new line and a token, and a user without
one. -/
theorem substitution_keeps_structure_group :
    let store : Store := ((Store.empty.addActivity ['4']).addSection 1 "Week 1".toList
      true).addCompletion ['4'] 7 50
    let ctx : RenderContext := ⟨7, 1, false, store.backend⟩
    let ctx' : RenderContext := ⟨8, 1, false, store.backend⟩
    let dates : DateLabels :=
      ⟨[⟨0, 99, "|#late#|\n^\x7bcompletion:4\x7d".toList, true⟩], [], fun _ => "date".toList⟩
    let content : Text := "#Term 1#\n| Week 1 | \x7bcompletion:4\x7d |".toList
    let lines := (Document.read store.backend 1 content).value
    (Token.substituteLines { ctx with preview := true } dates lines).value.map Line.blank
        = lines.map Line.blank
      ∧ (Html.tags (renderTable ctx dates content).value).map Html.plainTag
        = (Html.tags (renderTable ctx' dates content).value).map Html.plainTag := by
  intro store ctx ctx' dates content lines
  obtain ⟨hlines, htags⟩ := substitution_keeps_structure
  exact ⟨(hlines { ctx with preview := true } dates lines).2 rfl,
    htags ctx ctx' dates dates content rfl rfl rfl (fun _ => rfl) (fun _ => rfl)
      (by decide +kernel) (by decide +kernel) (by decide +kernel)⟩

end ProgressTable
