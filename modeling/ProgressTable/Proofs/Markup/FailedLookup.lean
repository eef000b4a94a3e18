import Mathlib.Tactic
import ProgressTable.Proofs.Markup.Document
import ProgressTable.Proofs.Markup.Question
import ProgressTable.Proofs.Markup.TwoRuns

/-!
# Failed lookups

A backend may fail on any question. The table that is rendered then is the one for a backend that
knows nothing where this one fails (`Backend.orMiss`), and every question that failed is reported by
one warning. The first half compares two runs and the second looks at one run, and both are carried
from the places that ask through the whole pipeline.
-/

namespace ProgressTable

open Text Journaled

/-! ## Misses -/

/-- Whether an event is anything but a warning. -/
def Event.isNoWarning : Event → Bool
  | .call _ => true
  | .log r => r.level ≠ .warn

namespace Backend

variable (b : Backend)

/-- The backend that answers with a miss where `b` fails: no section has the label, there is no
such activity, or the user has not completed it. -/
def orMiss : Backend where
  sections course label := .ok ((b.sections course label).toOption.getD [])
  activityExists id := .ok ((b.activityExists id).toOption.getD false)
  completion id user := .ok ((b.completion id user).toOption.getD none)

theorem failure?_orMiss (c : Call) : b.orMiss.failure? c = none := by
  cases c <;> rfl

theorem warning?_orMiss (c : Call) : b.orMiss.warning? c = none := by
  rw [warning?, failure?_orMiss, Option.map_none]

/-- But for the warning, a question to a backend that fails is a question to one that misses. -/
theorem agreeOn_asked {α : Type} (c : Call) (a : α) :
    AgreeOn Event.isNoWarning (b.asked c a) (b.orMiss.asked c a) where
  value := rfl
  journal := by
    rw [asked, asked, warning?_orMiss]
    cases h : b.warning? c with
    | none => rfl
    | some r =>
      have hunseen : ¬ Event.isNoWarning (.log r) = true := by
        rw [Event.isNoWarning, b.level_of_warning? h]
        decide
      simp [List.filter_cons, hunseen]

end Backend

variable (ctx : RenderContext) (dates : DateLabels)

/-! ## A failure is answered like a miss -/

/-- The same rendering with a backend that misses where the other one fails. -/
def RenderContext.orMiss : RenderContext := { ctx with backend := ctx.backend.orMiss }

theorem sameAnswers_orMiss : SameAnswers Event.isNoWarning ctx ctx.orMiss dates dates where
  course := rfl
  preview := rfl
  status label := by
    rw [Document.askStatus_eq_asked, Document.askStatus_eq_asked]
    exact Backend.agreeOn_asked _ _ _
  activity id := by
    rw [Token.askActivity_eq_asked, Token.askActivity_eq_asked]
    exact Backend.agreeOn_asked _ _ _
  completion _ id := by
    rw [Token.askCompletion_eq_asked, Token.askCompletion_eq_asked]
    exact Backend.agreeOn_asked _ _ _
  labels _ := rfl

/-! ## A failure is reported once -/

theorem Document.reports_readLine (b : Backend) (course : CourseId) (line : Text) :
    Reports b.warning? (readLine b course line) := by
  have hstatus (label : Text) : Reports b.warning? (askStatus b course label) := by
    rw [askStatus_eq_asked]
    exact b.reports_asked _ _
  have hread := readAs_readLine b course line
  generalize readLine b course line = x at hread ⊢
  cases hread with
  | headerRow => exact .pure _
  | groupRow => exact .pure _
  | sectionRow => exact .map _ ((hstatus _).bind rfl)
  | plain => exact .pure _

theorem Token.reports_resolve (id : ActivityId) :
    Reports ctx.backend.warning? (resolve ctx dates id) := by
  have hactivity : Reports ctx.backend.warning? (askActivity ctx id) := by
    rw [askActivity_eq_asked]
    exact Backend.reports_asked _ _ _
  have hcompletion : Reports ctx.backend.warning? (askCompletion ctx id) := by
    rw [askCompletion_eq_asked]
    exact Backend.reports_asked _ _ _
  refine hactivity.bind ?_
  split
  · split
    · exact .pure _
    · refine hcompletion.bind ?_
      split <;> exact .pure _
  · exact .pure _

theorem Token.reports_substitute (t : Text) :
    Reports ctx.backend.warning? (substitute ctx dates t) := by
  have hpiece (x : Piece ActivityId) : Reports ctx.backend.warning? (resolvePiece ctx dates x) := by
    cases x with
    | verbatim s => exact .pure _
    | found id => exact (reports_resolve ctx dates id).bind (.pure _)
  rw [substitute]
  split
  · exact (Reports.mapM hpiece _).bind (.pure _)
  · exact .pure _

theorem Token.reports_substituteLine (line : Line) :
    Reports ctx.backend.warning? (substituteLine ctx dates line) := by
  have hfragment (f : Fragment) :
      Reports ctx.backend.warning? (substituteFragment ctx dates f) :=
    (reports_substitute ctx dates f.text).bind (.pure _)
  cases line with
  | headerRow fs => exact (Reports.mapM hfragment fs).bind (.pure _)
  | groupRow fs => exact (Reports.mapM hfragment fs).bind (.pure _)
  | sectionRow row => exact (Reports.mapM hfragment row.fragments).bind (.pure _)
  | plain t => exact (reports_substitute ctx dates t).bind (.pure _)

theorem reports_renderTable (content : Text) :
    Reports ctx.backend.warning? (renderTable ctx dates content) := by
  refine (Reports.mapM (Document.reports_readLine ctx.backend ctx.course) _).bind ?_
  exact (Reports.mapM (Token.reports_substituteLine ctx dates) _).bind (.pure _)

/-! ## The table -/

/-- A failed lookup is a miss: the table is that for the backend which misses where this one fails,
and the same questions are asked in the same order. Each failed question is logged by one warning,
in the order of the questions, and the other rendering logs none. -/
theorem renderTable_orMiss (content : Text) :
    let failing := renderTable ctx dates content
    let missing := renderTable { ctx with backend := ctx.backend.orMiss } dates content
    failing.value = missing.value
    ∧ failing.calls = missing.calls
    ∧ failing.warnings
      = failing.calls.filterMap (fun c => (ctx.backend.failure? c).map c.warning)
    ∧ missing.warnings = [] := by
  intro failing missing
  have hagree : AgreeOn Event.isNoWarning failing missing :=
    (sameAnswers_orMiss ctx dates).renderTable content
  have hmissing : missing.warnings = missing.calls.filterMap ctx.backend.orMiss.warning? :=
    reports_renderTable ctx.orMiss dates content
  refine ⟨hagree.value, hagree.calls fun _ => rfl, reports_renderTable ctx dates content, ?_⟩
  rw [hmissing, List.filterMap_eq_nil_iff]
  exact fun c _ => ctx.backend.warning?_orMiss c

end ProgressTable
