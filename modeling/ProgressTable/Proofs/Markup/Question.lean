import Mathlib.Tactic
import ProgressTable.Markup.Document
import ProgressTable.Markup.Token
import ProgressTable.Proofs.Journal

/-!
# Asking a question

Three places of the program ask the course, and each does the same: the question is entered in the
journal, a failure is logged by one warning (`Call.warning`) and then counts as a miss. This is said
once here (`Backend.asked`), for a status, for an activity and for a completion; what a run asks and
what it warns of follows from it.
-/

namespace ProgressTable

open Text Journaled

/-! ## Failures -/

/-- The report in an answer, if the answer is a failure. -/
def LookupError.of? {α : Type} : Except LookupError α → Option LookupError
  | .ok _ => none
  | .error e => some e

namespace Backend

/-- The report on a question that the backend fails on. -/
def failure? (b : Backend) : Call → Option LookupError
  | .sections course label => LookupError.of? (b.sections course label)
  | .activity id => LookupError.of? (b.activityExists id)
  | .completion id user => LookupError.of? (b.completion id user)

end Backend

/-- What is logged when a question fails. -/
def Call.warning (c : Call) (e : LookupError) : LogRecord :=
  match c with
  | .sections course label => ⟨.warn, Document.logTarget,
      "Section lookup for ".toList ++ inApostrophes label ++ " in course ".toList
        ++ Numeral.ofInt64 course ++ " failed: ".toList ++ e.describe⟩
  | .activity id => ⟨.warn, Token.logTarget,
      "Activity lookup for ".toList ++ inApostrophes id ++ " failed: ".toList ++ e.describe⟩
  | .completion id user => ⟨.warn, Token.logTarget,
      "Completion lookup for ".toList ++ inApostrophes id ++ " and user ".toList
        ++ Numeral.ofInt64 user ++ " failed: ".toList ++ e.describe⟩

/-! ## What a question leads to -/

namespace Backend

variable (b : Backend) {α : Type}

/-- The warning that a question to this backend leads to. -/
def warning? (c : Call) : Option LogRecord := (b.failure? c).map c.warning

/-- The value that a question leads to, with the question and its warning in the journal. -/
def asked (c : Call) (a : α) : Journaled α :=
  ⟨a, .call c :: ((b.warning? c).map Event.log).toList⟩

/-- Every warning is about a question that failed. -/
theorem level_of_warning? {c : Call} {r : LogRecord} (h : b.warning? c = some r) :
    r.level = .warn := by
  obtain ⟨e, -, rfl⟩ := Option.map_eq_some_iff.1 h
  cases c <;> rfl

@[simp] theorem value_asked (c : Call) (a : α) : (b.asked c a).value = a := rfl

@[simp] theorem calls_asked (c : Call) (a : α) : (b.asked c a).calls = [c] := by
  cases h : b.warning? c with
  | none => simp [calls, asked, h]
  | some r => simp [calls, asked, h]

/-- A question is reported by its warning. -/
theorem reports_asked (c : Call) (a : α) : Reports b.warning? (b.asked c a) := by
  cases h : b.warning? c with
  | none => simp [Reports, warnings, logs, calls, asked, h]
  | some r => simp [Reports, warnings, logs, calls, asked, h, b.level_of_warning? h]

end Backend

/-! ## The three questions -/

theorem Document.askStatus_eq_asked (b : Backend) (course : CourseId) (label : Text) :
    askStatus b course label = b.asked (.sections course label)
      (statusOf ((b.sections course label).toOption.getD [])) := by
  rw [askStatus, Backend.askSections, Backend.asked, Backend.warning?, Backend.failure?]
  cases b.sections course label with
  | ok found => rfl
  | error e => rfl

theorem Token.askActivity_eq_asked (ctx : RenderContext) (id : ActivityId) :
    askActivity ctx id = ctx.backend.asked (.activity id)
      ((ctx.backend.activityExists id).toOption.getD false) := by
  rw [askActivity, Backend.askActivity, Backend.asked, Backend.warning?, Backend.failure?]
  cases ctx.backend.activityExists id with
  | ok answer => rfl
  | error e => rfl

theorem Token.askCompletion_eq_asked (ctx : RenderContext) (id : ActivityId) :
    askCompletion ctx id = ctx.backend.asked (.completion id ctx.user)
      ((ctx.backend.completion id ctx.user).toOption.getD none) := by
  rw [askCompletion, Backend.askCompletion, Backend.asked, Backend.warning?, Backend.failure?]
  cases ctx.backend.completion id ctx.user with
  | ok answer => rfl
  | error e => rfl

end ProgressTable
