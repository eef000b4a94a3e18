import Mathlib.Tactic
import ProgressTable.Proofs.Markup.Locality
import ProgressTable.Proofs.Markup.Trace

/-!
# How the row of a section comes out

Three stages decide how the row of a section looks: reading settles the status of the section, the
tokens leave a mark, and writing picks a style by the mode, the status and the mark. `RowOutcome`
says the result in one place, in terms of what the course answers: when the row is left out, and
when it is italic, red, grey or black (`renderTable_sectionRows`).

The mark is folded twice, over the tokens of a text and over the texts of the row. Both folds give
`notCompleted` just when it is among what they fold over, so a row is grey if some token in it is
unfinished, wherever the token stands.
-/

namespace ProgressTable

open Text

/-! ## Unfinished activities -/

namespace Token

variable (ctx : RenderContext) (dates : DateLabels)

/-- The activity of a token exists and the label of the user's completion is a dash between blanks:
because there is no completion, because it could not be looked up, or by the label itself. -/
inductive Unfinished (id : ActivityId) : Prop
  | notCompleted (hactivity : ctx.backend.activityExists id = .ok true)
    (hcompletion : ctx.backend.completion id ctx.user = .ok none)
  | failed (hactivity : ctx.backend.activityExists id = .ok true) {e : LookupError}
    (hcompletion : ctx.backend.completion id ctx.user = .error e)
  | dash (hactivity : ctx.backend.activityExists id = .ok true) {record : CompletionRecord}
    (hcompletion : ctx.backend.completion id ctx.user = .ok (some record))
    (hlabel : trim (dates.label (some record.completedAt)) = ['-'])

theorem unfinished_iff {id : ActivityId} : Unfinished ctx dates id ↔
    ctx.backend.activityExists id = .ok true ∧ trim (userLabel ctx dates id) = ['-'] := by
  have hdash : trim notCompletedLabel = ['-'] := by decide
  constructor
  · intro h
    cases h with
    | notCompleted hactivity hcompletion =>
      refine ⟨hactivity, ?_⟩
      rw [userLabel, hcompletion]
      exact hdash
    | failed hactivity hcompletion =>
      refine ⟨hactivity, ?_⟩
      rw [userLabel, hcompletion]
      exact hdash
    | dash hactivity hcompletion hlabel =>
      refine ⟨hactivity, ?_⟩
      rw [userLabel, hcompletion]
      exact hlabel
  · rintro ⟨hactivity, hlabel⟩
    rw [userLabel] at hlabel
    cases hcompletion : ctx.backend.completion id ctx.user with
    | error e => exact .failed hactivity hcompletion
    | ok answer =>
      cases answer with
      | none => exact .notCompleted hactivity hcompletion
      | some record =>
        rw [hcompletion] at hlabel
        exact .dash hactivity hcompletion hlabel

/-! ## The mark of a row -/

variable {ctx dates}

/-- A token is marked by its label, if its activity exists. -/
theorem mark?_resolve (id : ActivityId) :
    (resolve ctx dates id).value.mark?
      = if ctx.backend.activityExists id = .ok true then
          some (if trim (shownLabel ctx dates id) = ['-'] then .notCompleted else .completed)
        else none := by
  rw [value_resolve]
  split <;> rfl

theorem mark?_resolve_eq_none {id : ActivityId} :
    (resolve ctx dates id).value.mark? = none ↔ ctx.backend.activityExists id ≠ .ok true := by
  rw [mark?_resolve]
  split <;> simp [*]

theorem mark?_resolve_eq_notCompleted {id : ActivityId} :
    (resolve ctx dates id).value.mark? = some .notCompleted
      ↔ ctx.backend.activityExists id = .ok true ∧ trim (shownLabel ctx dates id) = ['-'] := by
  rw [mark?_resolve]
  split <;> simp [*]

theorem mergeMarks_cons_none (current : Option CompletionMark)
    (marks : List (Option CompletionMark)) :
    mergeMarks current (none :: marks) = mergeMarks current marks := rfl

theorem mergeMarks_cons_some (current : Option CompletionMark) (m : CompletionMark)
    (marks : List (Option CompletionMark)) :
    mergeMarks current (some m :: marks)
      = mergeMarks (some (CompletionMark.merge current m)) marks := rfl

/-- One mark that is not completed decides for all. -/
theorem mergeMarks_eq_notCompleted {current : Option CompletionMark}
    {marks : List (Option CompletionMark)} :
    mergeMarks current marks = some .notCompleted
      ↔ current = some .notCompleted ∨ some .notCompleted ∈ marks := by
  induction marks generalizing current with
  | nil => simp [mergeMarks]
  | cons m marks ih =>
    cases m with
    | none =>
      rw [mergeMarks_cons_none, ih]
      simp
    | some m =>
      have hmerge : CompletionMark.merge current m = .notCompleted
          ↔ current = some .notCompleted ∨ m = .notCompleted := by
        rcases current with - | (_ | _) <;> cases m <;> simp [CompletionMark.merge]
      rw [mergeMarks_cons_some, ih, Option.some_inj, hmerge, List.mem_cons, Option.some_inj,
        or_assoc, eq_comm (a := m)]

/-- The mark of a text is that of its tokens, whether or not the text is scanned. -/
theorem mark_substitute (t : Text) :
    (substitute ctx dates t).value.2
      = mergeMarks none ((pattern.pieces t).map fun x => (resolvePiece ctx dates x).value.2) := by
  rw [substitute]
  split
  · simp only [Journaled.value_bind, Journaled.value_mapM, Journaled.value_pure, List.map_map]
    rfl
  · next hocc =>
    by_cases hne : t = []
    · rw [hne, Pattern.pieces_nil]
      rfl
    · rw [Pattern.pieces_of_none hne fun s => match?_of_not_occurs hocc]
      rfl

/-- What marks a text that has a mark comes from one of its tokens. -/
theorem mem_marks_iff {t : Text} {m : CompletionMark} :
    some m ∈ (pattern.pieces t).map (fun x => (resolvePiece ctx dates x).value.2)
      ↔ ∃ id ∈ identifiers t, (resolve ctx dates id).value.mark? = some m := by
  rw [List.mem_map]
  constructor
  · rintro ⟨x, hx, hmark⟩
    cases x with
    | verbatim s => cases hmark
    | found id => exact ⟨id, Pattern.mem_found.2 hx, hmark⟩
  · rintro ⟨id, hid, hmark⟩
    exact ⟨.found id, Pattern.mem_found.1 hid, hmark⟩

theorem mark_substitute_eq_notCompleted (t : Text) :
    (substitute ctx dates t).value.2 = some .notCompleted
      ↔ ∃ id ∈ identifiers t,
        ctx.backend.activityExists id = .ok true ∧ trim (shownLabel ctx dates id) = ['-'] := by
  rw [mark_substitute, mergeMarks_eq_notCompleted, mem_marks_iff]
  simp only [mark?_resolve_eq_notCompleted, reduceCtorEq, false_or]

/-- Outside a preview a text is marked by the activities that the user did not finish. -/
theorem notCompleted_iff_unfinished (hpreview : ctx.preview = false) (t : Text) :
    (substitute ctx dates t).value.2 = some .notCompleted
      ↔ ∃ id ∈ identifiers t, Unfinished ctx dates id := by
  simp only [mark_substitute_eq_notCompleted, unfinished_iff, shownLabel, hpreview,
    Bool.false_eq_true, if_false]

end Token

/-- Outside a preview a row that had no mark is marked by the tokens in its texts. -/
theorem SectionRow.mark_eq_notCompleted {ctx : RenderContext} {dates : DateLabels}
    (hpreview : ctx.preview = false) (row : SectionRow) :
    Token.mergeMarks none (row.fragments.map fun f => (Token.substitute ctx dates f.text).value.2)
        = some .notCompleted
      ↔ ∃ id ∈ Line.identifiers (.sectionRow row), Token.Unfinished ctx dates id := by
  rw [Token.mergeMarks_eq_notCompleted, List.mem_map]
  constructor
  · rintro (h | ⟨f, hf, hmark⟩)
    · cases h
    · obtain ⟨id, hid, h⟩ := (Token.notCompleted_iff_unfinished hpreview f.text).1 hmark
      exact ⟨id, List.mem_flatMap.2 ⟨f.text, List.mem_map_of_mem hf, hid⟩, h⟩
  · rintro ⟨id, hid, h⟩
    obtain ⟨t, ht, hid⟩ := List.mem_flatMap.1 hid
    obtain ⟨f, hf, rfl⟩ := List.mem_map.1 ht
    exact .inr ⟨f, hf, (Token.notCompleted_iff_unfinished hpreview f.text).2 ⟨id, hid, h⟩⟩

/-! ## The status of a row -/

namespace Backend

variable (b : Backend) (course : CourseId) (label : Text)

/-- The course has no section with this label, or the question failed. -/
def NoSection : Prop := b.sections course label = .ok [] ∨ ∃ e, b.sections course label = .error e

/-- The last section with this label that the course gives is visible, or is not. -/
def LastSection (visible : Bool) : Prop :=
  ∃ earlier, b.sections course label = .ok (earlier ++ [⟨visible⟩])

end Backend

namespace Document

theorem statusOf_append (earlier : List SectionRecord) (visible : Bool) :
    statusOf (earlier ++ [⟨visible⟩]) = if visible then .visible else .hidden := by
  rw [statusOf, List.getLast?_concat]

theorem statusOf_eq_invalid {found : List SectionRecord} :
    statusOf found = .invalid ↔ found = [] := by
  rcases List.eq_nil_or_concat found with rfl | ⟨earlier, ⟨visible⟩, rfl⟩
  · exact iff_of_true rfl rfl
  · rw [List.concat_eq_append, statusOf_append]
    cases visible <;> simp

variable {b : Backend} {course : CourseId} {label : Text}

theorem value_askStatus_eq_invalid :
    (askStatus b course label).value = .invalid ↔ b.NoSection course label := by
  rw [askStatus_eq_asked, Backend.value_asked, statusOf_eq_invalid, Backend.NoSection]
  cases b.sections course label with
  | error e => simp [Except.toOption]
  | ok found => simp [Except.toOption]

theorem value_askStatus_eq {visible : Bool} :
    (askStatus b course label).value = (if visible then .visible else .hidden)
      ↔ b.LastSection course label visible := by
  rw [askStatus_eq_asked, Backend.value_asked, Backend.LastSection]
  cases b.sections course label with
  | error e =>
    have hinvalid : statusOf [] = .invalid := rfl
    cases visible <;> simp [Except.toOption, hinvalid]
  | ok found =>
    rcases List.eq_nil_or_concat found with rfl | ⟨earlier, ⟨last⟩, rfl⟩
    · have hinvalid : statusOf [] = .invalid := rfl
      cases visible <;> simp [Except.toOption, hinvalid]
    · rw [List.concat_eq_append, Except.toOption, Option.getD_some, statusOf_append]
      cases last <;> cases visible <;> simp

/-- The row of a section that is read has the status that the course answers for its label, and no
mark yet. -/
theorem sectionRow_of_readLine {line : Text} {row : SectionRow}
    (h : (readLine b course line).value = .sectionRow row) :
    row.status = (askStatus b course row.label).value ∧ row.completion = none := by
  have hread := readAs_readLine b course line
  generalize readLine b course line = x at hread h
  cases hread with
  | headerRow => cases h
  | groupRow => cases h
  | sectionRow =>
    rw [Journaled.value_map, value_readSectionRow] at h
    cases h
    exact ⟨rfl, rfl⟩
  | plain => cases h

end Document

/-! ## The style of a row -/

namespace Html

theorem row_ne_nil (style : RowStyle) (fs : List Fragment) : row style fs ≠ [] := by
  rw [row, List.append_assoc]
  exact List.append_ne_nil_of_left_ne_nil (openTag_ne_nil style) _

/-- Rows of different styles are different, whatever they hold. -/
theorem row_inj {style style' : RowStyle} {fs : List Fragment} :
    row style fs = row style' fs ↔ style = style' := by
  constructor
  · intro h
    rw [row, row, List.append_assoc, List.append_assoc] at h
    exact openTag_inj (List.append_cancel_right h)
  · rintro rfl
    rfl

/-- The HTML of a section's row tells its style. -/
theorem line_sectionRow {preview : Bool} {r : SectionRow} :
    (line preview (.sectionRow r) = [] ↔ sectionStyle? preview r.status r.completion = none)
    ∧ ∀ style, line preview (.sectionRow r) = row style r.fragments
      ↔ sectionStyle? preview r.status r.completion = some style := by
  rw [line]
  cases sectionStyle? preview r.status r.completion with
  | none =>
    dsimp only
    refine ⟨iff_of_true rfl rfl, fun style => iff_of_false ?_ (Option.some_ne_none style).symm⟩
    exact (row_ne_nil style r.fragments).symm
  | some s =>
    dsimp only
    refine ⟨iff_of_false (row_ne_nil s r.fragments) (Option.some_ne_none s), fun style => ?_⟩
    rw [row_inj, Option.some_inj]

/-! What the table of styles says, style by style. -/

section

variable {preview : Bool} {status : SectionStatus} {mark : Option CompletionMark}

theorem sectionStyle?_eq_none : sectionStyle? preview status mark = none
    ↔ preview = false ∧ (status = .invalid ∨ status = .hidden) := by
  cases preview <;> cases status <;> simp [sectionStyle?]

theorem sectionStyle?_eq_hidden : sectionStyle? preview status mark = some .hidden
    ↔ preview = true ∧ status = .hidden := by
  by_cases hmark : mark = some .notCompleted <;>
    cases preview <;> cases status <;> simp [sectionStyle?, hmark]

theorem sectionStyle?_eq_invalid : sectionStyle? preview status mark = some .invalid
    ↔ preview = true ∧ status = .invalid := by
  by_cases hmark : mark = some .notCompleted <;>
    cases preview <;> cases status <;> simp [sectionStyle?, hmark]

theorem sectionStyle?_eq_notCompleted : sectionStyle? preview status mark = some .notCompleted
    ↔ preview = false ∧ status = .visible ∧ mark = some .notCompleted := by
  cases preview <;> cases status <;> simp [sectionStyle?]

theorem sectionStyle?_eq_normal : sectionStyle? preview status mark = some .normal
    ↔ status = .visible ∧ (preview = true ∨ ¬ mark = some .notCompleted) := by
  cases preview <;> cases status <;> simp [sectionStyle?]

end

end Html

/-- The HTML of a section's row in a style, with the tokens replaced. -/
def SectionRow.html (ctx : RenderContext) (dates : DateLabels) (row : SectionRow)
    (style : Html.RowStyle) : Text :=
  Html.row style (row.fragments.map (Fragment.shown ctx dates))

/-- When the row of a section is left out, and when it is italic, red, grey or black. -/
structure RowOutcome (ctx : RenderContext) (dates : DateLabels) (row : SectionRow)
    (html : Text) : Prop where
  leftOut : html = [] ↔ ctx.preview = false
    ∧ (ctx.backend.NoSection ctx.course row.label
      ∨ ctx.backend.LastSection ctx.course row.label false)
  italic : html = row.html ctx dates .hidden ↔ ctx.preview = true
    ∧ ctx.backend.LastSection ctx.course row.label false
  red : html = row.html ctx dates .invalid ↔ ctx.preview = true
    ∧ ctx.backend.NoSection ctx.course row.label
  grey : html = row.html ctx dates .notCompleted ↔ ctx.preview = false
    ∧ ctx.backend.LastSection ctx.course row.label true
    ∧ ∃ id ∈ Line.identifiers (.sectionRow row), Token.Unfinished ctx dates id
  black : html = row.html ctx dates .normal ↔ ctx.backend.LastSection ctx.course row.label true
    ∧ (ctx.preview = true
      ∨ ¬ ∃ id ∈ Line.identifiers (.sectionRow row), Token.Unfinished ctx dates id)

namespace RowOutcome

variable {ctx : RenderContext} {dates : DateLabels}

/-- A row that was read comes out as the course answers. -/
theorem of_readLine {line : Text} {row : SectionRow}
    (h : (Document.readLine ctx.backend ctx.course line).value = .sectionRow row) :
    RowOutcome ctx dates row
      (Html.line ctx.preview (Token.substituteLine ctx dates (.sectionRow row)).value) := by
  obtain ⟨hstatus, hcompletion⟩ := Document.sectionRow_of_readLine h
  have hno : ctx.backend.NoSection ctx.course row.label ↔ row.status = .invalid := by
    rw [hstatus, Document.value_askStatus_eq_invalid]
  have hlast (visible : Bool) : ctx.backend.LastSection ctx.course row.label visible
      ↔ row.status = if visible then .visible else .hidden := by
    rw [hstatus, Document.value_askStatus_eq]
  have hhidden := hlast false
  have hvisible := hlast true
  rw [if_neg Bool.false_ne_true] at hhidden
  rw [if_pos rfl] at hvisible
  rw [Token.value_substituteLine_sectionRow, hcompletion]
  obtain ⟨hnil, hstyle⟩ := @Html.line_sectionRow ctx.preview
    { row with
      fragments := row.fragments.map (Fragment.shown ctx dates)
      completion := if ctx.preview then none else Token.mergeMarks none
        (row.fragments.map fun f => (Token.substitute ctx dates f.text).value.2) }
  -- the mark is looked at outside a preview only
  have hmark (hoff : ctx.preview = false) :
      (if ctx.preview then none else Token.mergeMarks none
        (row.fragments.map fun f => (Token.substitute ctx dates f.text).value.2))
        = some CompletionMark.notCompleted
      ↔ ∃ id ∈ Line.identifiers (.sectionRow row), Token.Unfinished ctx dates id := by
    rw [hoff, if_neg Bool.false_ne_true, SectionRow.mark_eq_notCompleted hoff]
  constructor
  · rw [hnil, Html.sectionStyle?_eq_none, hno, hhidden]
  · rw [SectionRow.html, hstyle, Html.sectionStyle?_eq_hidden, hhidden]
  · rw [SectionRow.html, hstyle, Html.sectionStyle?_eq_invalid, hno]
  · rw [SectionRow.html, hstyle, Html.sectionStyle?_eq_notCompleted, hvisible]
    exact and_congr_right fun hoff => and_congr_right fun _ => hmark hoff
  · rw [SectionRow.html, hstyle, Html.sectionStyle?_eq_normal, hvisible]
    refine and_congr_right fun _ => or_congr_right' fun hon => ?_
    exact not_congr (hmark (Bool.eq_false_iff.2 hon))

/-- The style of a row hangs on its label and on which tokens of existing activities it holds: rows
that agree in these come out alike. -/
theorem style_congr {row row' : SectionRow} {html html' : Text}
    (h : RowOutcome ctx dates row html) (h' : RowOutcome ctx dates row' html')
    (hlabel : row.label = row'.label)
    (htokens : ∀ id, ctx.backend.activityExists id = .ok true →
      (id ∈ Line.identifiers (.sectionRow row) ↔ id ∈ Line.identifiers (.sectionRow row'))) :
    (html = [] ↔ html' = [])
    ∧ ∀ style, html = row.html ctx dates style ↔ html' = row'.html ctx dates style := by
  have hunfinished : (∃ id ∈ Line.identifiers (.sectionRow row), Token.Unfinished ctx dates id)
      ↔ ∃ id ∈ Line.identifiers (.sectionRow row'), Token.Unfinished ctx dates id := by
    refine exists_congr fun id => and_congr_left fun hid => htokens id ?_
    exact ((Token.unfinished_iff ctx dates).1 hid).1
  refine ⟨?_, fun style => ?_⟩
  · rw [h.leftOut, h'.leftOut, hlabel]
  · cases style with
    | normal => rw [h.black, h'.black, hlabel, hunfinished]
    | hidden => rw [h.italic, h'.italic, hlabel]
    | invalid => rw [h.red, h'.red, hlabel]
    | notCompleted => rw [h.grey, h'.grey, hlabel, hunfinished]

end RowOutcome

variable (ctx : RenderContext) (dates : DateLabels)

/-- In the table of a document each row of a section comes out as `RowOutcome` says. The style does
not depend on the order of the tokens in the row, on the cells that hold them or on tokens of
unknown activities. -/
theorem renderTable_sectionRows (content : Text) :
    let ls := (Document.read ctx.backend ctx.course content).value
    (∃ shown : List Text,
      (renderTable ctx dates content).value = Html.tableOpen ++ ofLines shown ++ Html.tableClose
      ∧ List.Forall₂ (fun line html => ∀ row, line = .sectionRow row →
        RowOutcome ctx dates row html) ls shown)
    ∧ ∀ row row' html html', RowOutcome ctx dates row html → RowOutcome ctx dates row' html' →
      row.label = row'.label →
      (∀ id, ctx.backend.activityExists id = .ok true →
        (id ∈ Line.identifiers (.sectionRow row) ↔ id ∈ Line.identifiers (.sectionRow row'))) →
      (html = [] ↔ html' = [])
      ∧ ∀ style, html = row.html ctx dates style ↔ html' = row'.html ctx dates style := by
  intro ls
  refine ⟨⟨_, value_renderTable ctx dates content, ?_⟩, ?_⟩
  · have hls : ls = (lines content).map fun l => (lineRead ctx l).value := value_read ctx content
    rw [hls, List.forall₂_map_left_iff, List.forall₂_map_right_iff, List.forall₂_same]
    intro l _ row hrow
    rw [shownLine, hrow]
    exact .of_readLine hrow
  · intro row row' html html' h h' hlabel htokens
    exact h.style_congr h' hlabel htokens

/-- An unknown activity and one whose completion cannot be looked up, in a section that was listed
as hidden before it was listed as visible: the row is grey, also with the tokens exchanged in one
cell. -/
theorem renderTable_sectionRows_failed :
    let store : Store := ((Store.empty.addActivity ['4']).addSection 1 "Week 1".toList
      false).addSection 1 "Week 1".toList true
    let ctx : RenderContext := ⟨7, 1, false, store.backend.failing fun
      | .completion _ _ => some ⟨"down".toList⟩
      | _ => none⟩
    let dates : DateLabels := ⟨[], "Done".toList, fun _ => "date".toList⟩
    let content : Text := "| Week 1 | \x7bcompletion:9\x7d | \x7bcompletion:4\x7d |".toList
    let content' : Text := "| Week 1 | \x7bcompletion:4\x7d\x7bcompletion:9\x7d |".toList
    ∃ row row',
      (Document.read ctx.backend ctx.course content).value = [.sectionRow row]
      ∧ (renderTable ctx dates content).value
        = Html.tableOpen ++ row.html ctx dates .notCompleted ++ Html.tableClose
      ∧ (Document.read ctx.backend ctx.course content').value = [.sectionRow row']
      ∧ (renderTable ctx dates content').value
        = Html.tableOpen ++ row'.html ctx dates .notCompleted ++ Html.tableClose := by
  intro store ctx dates content content'
  have hrow (text : Text) (row : SectionRow)
      (hread : (Document.read ctx.backend ctx.course text).value = [.sectionRow row]) :
      ∃ html, (renderTable ctx dates text).value = Html.tableOpen ++ html ++ Html.tableClose
        ∧ RowOutcome ctx dates row html := by
    obtain ⟨⟨shown, hvalue, hrows⟩, -⟩ := renderTable_sectionRows ctx dates text
    rw [hread, List.forall₂_cons_left_iff] at hrows
    obtain ⟨html, rest, houtcome, hrest, rfl⟩ := hrows
    rw [List.forall₂_nil_left_iff.1 hrest, ofLines_singleton] at hvalue
    exact ⟨html, hvalue, houtcome row rfl⟩
  let row : SectionRow := ⟨"Week 1".toList, [.sectionCell " Week 1".toList,
    .sectionCell "\x7bcompletion:9\x7d".toList, .sectionCell "\x7bcompletion:4\x7d ".toList],
    .visible, none⟩
  let row' : SectionRow := ⟨"Week 1".toList, [.sectionCell " Week 1".toList,
    .sectionCell "\x7bcompletion:4\x7d\x7bcompletion:9\x7d ".toList], .visible, none⟩
  have hread : (Document.read ctx.backend ctx.course content).value = [.sectionRow row] := by
    decide +kernel
  have hread' : (Document.read ctx.backend ctx.course content').value = [.sectionRow row'] := by
    decide +kernel
  obtain ⟨html, hvalue, h⟩ := hrow content row hread
  obtain ⟨html', hvalue', h'⟩ := hrow content' row' hread'
  have hgrey : html = row.html ctx dates .notCompleted :=
    h.grey.2 ⟨rfl, ⟨[⟨false⟩], by decide +kernel⟩, ['4'], by decide +kernel,
      .failed (by decide +kernel) (e := ⟨"down".toList⟩) rfl⟩
  have htokens : ∀ id, (id ∈ Line.identifiers (.sectionRow row)
      ↔ id ∈ Line.identifiers (.sectionRow row')) := by
    have hids : Line.identifiers (.sectionRow row) = [['9'], ['4']] := by decide +kernel
    have hids' : Line.identifiers (.sectionRow row') = [['4'], ['9']] := by decide +kernel
    intro id
    rw [hids, hids']
    simp [or_comm]
  have hgrey' : html' = row'.html ctx dates .notCompleted :=
    (((renderTable_sectionRows ctx dates content).2 row row' html html' h h' rfl
      fun id _ => htokens id).2 .notCompleted).1 hgrey
  exact ⟨row, row', hread, hgrey ▸ hvalue, hread', hgrey' ▸ hvalue'⟩

end ProgressTable
