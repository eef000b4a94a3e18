import ProgressTable.Journal

/-!
# Backends

A backend answers the questions of `Call`. It answers as a function of the question, and it may
fail. The three `ask` functions are the only way a computation reaches a backend; each one enters
its question in the journal, a failed question too.
-/

namespace ProgressTable

/-- What a course says about one of its sections. -/
structure SectionRecord where
  visible : Bool
deriving Repr, DecidableEq

/-- When a user completed an activity. -/
structure CompletionRecord where
  completedAt : Timestamp
deriving Repr, DecidableEq

/-- A backend's report that it could not answer. -/
structure LookupError where
  message : Text
deriving Repr, DecidableEq

/-- The report as it stands in a log record. -/
def LookupError.describe (e : LookupError) : Text := "Lookup failed: ".toList ++ e.message

/-- Answers to the three questions about a course. -/
structure Backend where
  /-- The sections of a course with this label, in the course's order. -/
  sections : CourseId → Text → Except LookupError (List SectionRecord)
  /-- Whether the activity exists. -/
  activityExists : ActivityId → Except LookupError Bool
  /-- The user's completion of the activity, if there is one. -/
  completion : ActivityId → UserId → Except LookupError (Option CompletionRecord)

namespace Backend

/-- Asks for the sections of a course with this label. -/
def askSections (b : Backend) (course : CourseId) (label : Text) :
    Journaled (Except LookupError (List SectionRecord)) :=
  ⟨b.sections course label, [.call (.sections course label)]⟩

/-- Asks whether an activity exists. -/
def askActivity (b : Backend) (id : ActivityId) : Journaled (Except LookupError Bool) :=
  ⟨b.activityExists id, [.call (.activity id)]⟩

/-- Asks when a user completed an activity. -/
def askCompletion (b : Backend) (id : ActivityId) (user : UserId) :
    Journaled (Except LookupError (Option CompletionRecord)) :=
  ⟨b.completion id user, [.call (.completion id user)]⟩

end Backend
end ProgressTable
