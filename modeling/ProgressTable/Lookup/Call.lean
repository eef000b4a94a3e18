import ProgressTable.Text.Basic

/-!
# What is asked of the course

A table is rendered from what the course says about sections and activities. This file names the
three questions and the identifiers in them.
-/

namespace ProgressTable

/-- Seconds since the first of January 1970, UTC. -/
abbrev Timestamp := Int64

/-- Number of a user. -/
abbrev UserId := Int64

/-- Number of a course. -/
abbrev CourseId := Int64

/-- Number of an element on a page. -/
abbrev ElementId := Int64

/-- Identifier of an activity as a completion token writes it. -/
abbrev ActivityId := Text

/-- One question put to the course. -/
inductive Call where
  /-- The sections of a course that carry a label. -/
  | sections (course : CourseId) (label : Text)
  /-- Whether an activity exists. -/
  | activity (id : ActivityId)
  /-- When a user completed an activity. -/
  | completion (id : ActivityId) (user : UserId)
deriving Repr, DecidableEq

end ProgressTable
