import Mathlib.Tactic
import ProgressTable.Element.Element
import ProgressTable.Proofs.Lookup.Store
import ProgressTable.Proofs.Markup.Trace
import ProgressTable.Proofs.Markup.TwoRuns

/-!
# What an element may show

An element is rendered for one user in one course. A preview shows nothing about the user, and
outside a preview nothing about other users and other courses. Both are statements about two runs
that differ in what must not be shown: the runs are the same, with their questions and their log.
-/

namespace ProgressTable.Element

/-! ## Previews -/

/-- A rendering that is a preview already is not changed by making it one. -/
theorem render_eq_renderPreview (c : TableConfig) {ctx : RenderContext} (format : DateText)
    (hpreview : ctx.preview = true) : render c ctx format = renderPreview c ctx format := by
  rw [renderPreview, ← hpreview]

/-- In a preview no token asks for a completion. -/
theorem isCompletion_of_mem_calls_renderPreview (c : TableConfig) (ctx : RenderContext)
    (format : DateText) :
    ∀ call ∈ (renderPreview c ctx format).calls, call.isCompletion = false := by
  intro call hcall
  rw [renderPreview, render, calls_renderTable_questions, List.mem_append] at hcall
  rcases hcall with hcall | hcall
  · obtain ⟨label, -, rfl⟩ := List.mem_map.1 hcall
    rfl
  · obtain ⟨id, -, hcall⟩ := List.mem_flatMap.1 hcall
    rw [Token.questions, if_neg (by simp), List.mem_singleton] at hcall
    rw [hcall]
    rfl

/-- A preview reveals nothing about the user: with the same content, and the same answers about the
sections of one course and about activities, two previews are the same, with their questions and
their log, whoever they are shown to and however completions are answered and labelled. No question
about a completion is asked. Rendering with the preview on is this preview. -/
theorem preview_hides_user (c c' : TableConfig) (ctx ctx' : RenderContext)
    (format format' : DateText) (hcontent : c.content = c'.content)
    (hcourse : ctx.course = ctx'.course)
    (hsections : ∀ label,
      ctx.backend.sections ctx.course label = ctx'.backend.sections ctx'.course label)
    (hactivities : ∀ id, ctx.backend.activityExists id = ctx'.backend.activityExists id) :
    renderPreview c ctx format = renderPreview c' ctx' format'
    ∧ (∀ call ∈ (renderPreview c ctx format).calls, call.isCompletion = false)
    ∧ (ctx.preview = true → render c ctx format = renderPreview c ctx format)
    ∧ (ctx'.preview = true → render c' ctx' format' = renderPreview c' ctx' format') := by
  refine ⟨?_, isCompletion_of_mem_calls_renderPreview c ctx format,
    render_eq_renderPreview c format, render_eq_renderPreview c' format'⟩
  rw [renderPreview, renderPreview, render, render, hcontent]
  have hsame : SameAnswers (fun _ => true) { ctx with preview := true }
      { ctx' with preview := true } (c.labels format) (c'.labels format') :=
    .of_backends hcourse rfl hsections hactivities (fun hoff => nomatch hoff)
      fun hoff => nomatch hoff
  exact (hsame.renderTable c'.content).eq

/-- One user has completed the activity and the completions of the other cannot be looked up: their
tables differ and their previews do not. -/
theorem preview_hides_user_failing :
    let content : Text := "| Week 1 | \x7bcompletion:4\x7d |".toList
    let c : TableConfig := ⟨content, "Done".toList, []⟩
    let c' : TableConfig := ⟨content, [], [⟨0, 99, "early".toList, true⟩]⟩
    let store : Store := ((Store.empty.addActivity ['4']).addCompletion ['4'] 7 50).addSection 1
      "Week 1".toList true
    let failing : Backend := store.backend.failing fun
      | .completion _ _ => some ⟨"down".toList⟩
      | _ => none
    let ctx : RenderContext := ⟨7, 1, false, store.backend⟩
    let ctx' : RenderContext := ⟨8, 1, true, failing⟩
    let format : DateText := fun _ => "date".toList
    (∀ label, store.backend.sections 1 label = failing.sections 1 label)
      ∧ (∀ id, store.backend.activityExists id = failing.activityExists id)
      ∧ (render c ctx format).value ≠ (render c' { ctx' with preview := false } format).value
      ∧ renderPreview c ctx format = renderPreview c' ctx' format
      ∧ renderPreview c ctx format = render c' ctx' format := by
  intro content c c' store failing ctx ctx' format
  have hsections (label : Text) : store.backend.sections 1 label = failing.sections 1 label := rfl
  have hactivities (id : ActivityId) :
      store.backend.activityExists id = failing.activityExists id := rfl
  have hdiffer : (render c ctx format).value
      ≠ (render c' { ctx' with preview := false } format).value := by decide +kernel
  obtain ⟨hsame, -, -, hon⟩ :=
    preview_hides_user c c' ctx ctx' format format rfl rfl hsections hactivities
  exact ⟨hsections, hactivities, hdiffer, hsame, hsame.trans (hon rfl).symm⟩

/-! ## Stores -/

/-- An element shows nothing about other users and other courses: two stores that hold the same for
the user in the course give the same HTML, questions and log. A completion that is recorded again
for the same activity and user changes nothing, whoever it is. -/
theorem render_isolates_user_and_course (c : TableConfig) (user : UserId) (course : CourseId)
    (preview : Bool) (format : DateText) :
    (∀ s s' : Store, Store.Alike user course s s' →
      render c ⟨user, course, preview, s.backend⟩ format
        = render c ⟨user, course, preview, s'.backend⟩ format)
    ∧ ∀ (s : Store) (id : ActivityId) (someone : UserId) (time : Timestamp),
      (∃ x ∈ s.completions, x.activity = id ∧ x.user = someone) →
      render c ⟨user, course, preview, (s.addCompletion id someone time).backend⟩ format
        = render c ⟨user, course, preview, s.backend⟩ format := by
  constructor
  · intro s s' h
    have hsame : SameAnswers (fun _ => true) ⟨user, course, preview, s.backend⟩
        ⟨user, course, preview, s'.backend⟩ (c.labels format) (c.labels format) :=
      .of_backends rfl rfl (fun label => congrArg Except.ok (Store.sectionsNamed_of_alike h label))
        (fun id => congrArg Except.ok (Store.hasActivity_of_alike h id))
        (fun _ => ⟨rfl, fun id => congrArg Except.ok (Store.completion?_of_alike h id)⟩)
        fun _ => rfl
    exact (hsame.renderTable c.content).eq
  · intro s id someone time h
    rw [Store.backend_addCompletion h]

/-- Another user's earlier completion, another course's section of the same name and an activity
that is listed twice change nothing, nor does a second completion. -/
theorem render_isolates_user_and_course_interleaved :
    let c : TableConfig := ⟨"| Week 1 | \x7bcompletion:4\x7d |".toList, [],
      [⟨0, 20, "early".toList, true⟩, ⟨21, 99, "late".toList, true⟩]⟩
    let s : Store := ((Store.empty.addActivity ['4']).addCompletion ['4'] 7 50).addSection 1
      "Week 1".toList true
    let s' : Store := (((((Store.empty.addActivity ['4']).addActivity ['4']).addCompletion ['4'] 8
      10).addCompletion ['4'] 7 50).addSection 1 "Week 1".toList true).addSection 2
      "Week 1".toList false
    let format : DateText := fun _ => "date".toList
    let shown (t : Store) : Journaled Text := render c ⟨7, 1, false, t.backend⟩ format
    Store.Alike 7 1 s s' ∧ s ≠ s' ∧ shown s = shown s'
      ∧ shown (s.addCompletion ['4'] 7 10) = shown s := by
  intro c s s' format shown
  have hactivities (id : ActivityId) : id ∈ s.activities ↔ id ∈ s'.activities := by
    show id ∈ [['4']] ↔ id ∈ [['4'], ['4']]
    simp
  have halike : Store.Alike 7 1 s s' := ⟨hactivities, by decide +kernel, by decide +kernel⟩
  have hrecorded : ∃ x ∈ s.completions, x.activity = ['4'] ∧ x.user = 7 := by decide +kernel
  obtain ⟨hstores, hagain⟩ := render_isolates_user_and_course c 7 1 false format
  exact ⟨halike, by decide +kernel, hstores s s' halike, hagain s ['4'] 7 10 hrecorded⟩

end ProgressTable.Element
