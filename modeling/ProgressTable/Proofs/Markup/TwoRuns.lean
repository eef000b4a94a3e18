import Mathlib.Tactic
import ProgressTable.Markup.Table
import ProgressTable.Proofs.Journal

/-!
# Two renderings of one document

A rendering learns about its course and its user by asking, and a preview does not ask about the
user. Two renderings that are answered the same write the same table, whatever else is different
about them (`SameAnswers.renderTable`). Which of their events have to match is a parameter: one
statement serves runs with the same journal and runs that differ in their warnings.
-/

namespace ProgressTable

open Text Journaled

/-- Two renderings are answered the same, up to events that are not `seen`. In a preview nothing is
said about completions, the users and the labels. -/
structure SameAnswers (seen : Event → Bool) (ctx ctx' : RenderContext)
    (dates dates' : DateLabels) : Prop where
  course : ctx.course = ctx'.course
  preview : ctx.preview = ctx'.preview
  status : ∀ label, AgreeOn seen (Document.askStatus ctx.backend ctx.course label)
    (Document.askStatus ctx'.backend ctx'.course label)
  activity : ∀ id, AgreeOn seen (Token.askActivity ctx id) (Token.askActivity ctx' id)
  completion : ctx.preview = false →
    ∀ id, AgreeOn seen (Token.askCompletion ctx id) (Token.askCompletion ctx' id)
  labels : ctx.preview = false → dates = dates'

namespace SameAnswers

variable {seen : Event → Bool} {ctx ctx' : RenderContext} {dates dates' : DateLabels}

/-- Backends that answer alike what is asked for one course and, outside a preview, for one user. -/
theorem of_backends (hcourse : ctx.course = ctx'.course) (hpreview : ctx.preview = ctx'.preview)
    (hsections : ∀ label,
      ctx.backend.sections ctx.course label = ctx'.backend.sections ctx'.course label)
    (hactivities : ∀ id, ctx.backend.activityExists id = ctx'.backend.activityExists id)
    (hcompletions : ctx.preview = false → ctx.user = ctx'.user
      ∧ ∀ id, ctx.backend.completion id ctx.user = ctx'.backend.completion id ctx'.user)
    (hlabels : ctx.preview = false → dates = dates') : SameAnswers seen ctx ctx' dates dates' where
  course := hcourse
  preview := hpreview
  status label := by
    have hlabel := hsections label
    rw [hcourse] at hlabel ⊢
    rw [Document.askStatus, Document.askStatus, Backend.askSections, Backend.askSections, hlabel]
    exact .refl _
  activity id := by
    rw [Token.askActivity, Token.askActivity, Backend.askActivity, Backend.askActivity,
      hactivities id]
    exact .refl _
  completion hoff id := by
    obtain ⟨huser, hcompletion⟩ := hcompletions hoff
    have hid := hcompletion id
    rw [huser] at hid
    rw [Token.askCompletion, Token.askCompletion, Backend.askCompletion, Backend.askCompletion,
      huser, hid]
    exact .refl _
  labels := hlabels

/-! ## Reading -/

theorem readSectionRow (h : SameAnswers seen ctx ctx' dates dates') (label line : Text) :
    AgreeOn seen (Document.readSectionRow ctx.backend ctx.course label line)
      (Document.readSectionRow ctx'.backend ctx'.course label line) := by
  have hstatus := h.status label
  rw [h.course] at hstatus ⊢
  exact hstatus.bind fun _ => .refl _

theorem readLine (h : SameAnswers seen ctx ctx' dates dates') (line : Text) :
    AgreeOn seen (Document.readLine ctx.backend ctx.course line)
      (Document.readLine ctx'.backend ctx'.course line) := by
  unfold Document.readLine
  split
  · exact .refl _
  · split
    · exact .refl _
    · split
      · exact (h.readSectionRow _ line).map _
      · exact .refl _

/-! ## Replacing tokens -/

theorem resolve (h : SameAnswers seen ctx ctx' dates dates') (id : ActivityId) :
    AgreeOn seen (Token.resolve ctx dates id) (Token.resolve ctx' dates' id) := by
  rw [Token.resolve, Token.resolve, ← h.preview]
  refine (h.activity id).bind fun known => ?_
  split
  · split
    · exact .refl _
    · next hpreview =>
      -- only here are the user and the labels looked at
      have hoff : ctx.preview = false := Bool.eq_false_iff.2 hpreview
      rw [h.labels hoff]
      exact (h.completion hoff id).bind fun _ => .refl _
  · exact .refl _

theorem resolvePiece (h : SameAnswers seen ctx ctx' dates dates') (x : Piece ActivityId) :
    AgreeOn seen (Token.resolvePiece ctx dates x) (Token.resolvePiece ctx' dates' x) := by
  cases x with
  | verbatim t => exact .refl _
  | found id => exact (h.resolve id).bind fun _ => .refl _

theorem substitute (h : SameAnswers seen ctx ctx' dates dates') (t : Text) :
    AgreeOn seen (Token.substitute ctx dates t) (Token.substitute ctx' dates' t) := by
  rw [Token.substitute, Token.substitute]
  split
  · exact (AgreeOn.mapM h.resolvePiece _).bind fun _ => .refl _
  · exact .refl _

theorem substituteFragments (h : SameAnswers seen ctx ctx' dates dates') (fs : List Fragment) :
    AgreeOn seen (fs.mapM (Token.substituteFragment ctx dates))
      (fs.mapM (Token.substituteFragment ctx' dates')) :=
  AgreeOn.mapM (fun f => (h.substitute f.text).bind fun _ => .refl _) fs

theorem substituteLine (h : SameAnswers seen ctx ctx' dates dates') (line : Line) :
    AgreeOn seen (Token.substituteLine ctx dates line) (Token.substituteLine ctx' dates' line) := by
  cases line with
  | headerRow fs => exact (h.substituteFragments fs).bind fun _ => .refl _
  | groupRow fs => exact (h.substituteFragments fs).bind fun _ => .refl _
  | sectionRow row =>
    rw [Token.substituteLine, Token.substituteLine, h.preview]
    exact (h.substituteFragments row.fragments).bind fun _ => .refl _
  | plain t => exact (h.substitute t).bind fun _ => .refl _

/-! ## Rendering -/

/-- Renderings that are answered the same write the same table. -/
theorem renderTable (h : SameAnswers seen ctx ctx' dates dates') (content : Text) :
    AgreeOn seen (ProgressTable.renderTable ctx dates content)
      (ProgressTable.renderTable ctx' dates' content) := by
  rw [ProgressTable.renderTable, ProgressTable.renderTable, h.preview]
  refine AgreeOn.bind (AgreeOn.mapM h.readLine _) fun ls => ?_
  exact (AgreeOn.mapM h.substituteLine ls).bind fun _ => .refl _

end SameAnswers
end ProgressTable
