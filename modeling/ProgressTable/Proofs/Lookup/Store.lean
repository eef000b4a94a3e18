import Mathlib.Tactic
import ProgressTable.Lookup.Store

/-!
# Stores that hold the same for a user in a course

A store is asked for one user and one course at a time. What it holds for others does not change its
answers, nor does the order of its activities, nor a completion that is recorded a second time.
Of several completions the first one is found, and of several sections with one name the last one
is the last that is given.
-/

namespace ProgressTable.Store

/-- Two stores hold the same for a user in a course: the same activities in any order, the user's
completions and the course's sections in their order, and anything else. -/
structure Alike (user : UserId) (course : CourseId) (s s' : Store) : Prop where
  activities : ∀ id, id ∈ s.activities ↔ id ∈ s'.activities
  completions : s.completions.filter (fun x => x.user = user)
    = s'.completions.filter (fun x => x.user = user)
  sections : s.sections.filter (fun x => x.course = course)
    = s'.sections.filter (fun x => x.course = course)

variable {user : UserId} {course : CourseId} {s s' : Store}

theorem hasActivity_of_alike (h : Alike user course s s') (id : ActivityId) :
    s.hasActivity id = s'.hasActivity id := by
  rw [hasActivity, hasActivity, Bool.eq_iff_iff, List.contains_iff_mem, List.contains_iff_mem]
  exact h.activities id

theorem completion?_of_alike (h : Alike user course s s') (id : ActivityId) :
    s.completion? id user = s'.completion? id user := by
  -- the first completion is looked for among those of the user
  have hown (t : Store) : t.completions.find? (fun x => x.activity = id && x.user = user)
      = (t.completions.filter fun x => x.user = user).find? fun x => x.activity = id := by
    rw [List.find?_filter]
    congr 1
    funext x
    simp [Bool.and_comm]
  rw [completion?, completion?, hown, hown, h.completions]

theorem sectionsNamed_of_alike (h : Alike user course s s') (name : Text) :
    s.sectionsNamed course name = s'.sectionsNamed course name := by
  have hown (t : Store) : t.sections.filter (fun x => x.course = course && x.name = name)
      = (t.sections.filter fun x => x.course = course).filter fun x => x.name = name := by
    rw [List.filter_filter]
    congr 1
    funext x
    rw [Bool.and_comm]
  rw [sectionsNamed, sectionsNamed, hown, hown, h.sections]

/-- The first completion of an activity by one user is found. -/
theorem completion?_eq_first {c : StoredCompletion} {before after : List StoredCompletion}
    (h : s.completions = before ++ c :: after)
    (hfirst : ∀ x ∈ before, ¬ (x.activity = c.activity ∧ x.user = c.user)) :
    s.completion? c.activity c.user = some ⟨c.completedAt⟩ := by
  have hbefore : before.find? (fun x => x.activity = c.activity && x.user = c.user) = none := by
    rw [List.find?_eq_none]
    intro x hx
    simpa using hfirst x hx
  rw [completion?, h, List.find?_append, hbefore, Option.none_or, List.find?_cons_of_pos (by simp)]
  rfl

/-- The last section of a course with one name is the last that is given. -/
theorem sectionsNamed_eq_last {x : StoredSection} {before after : List StoredSection}
    (h : s.sections = before ++ x :: after)
    (hlast : ∀ y ∈ after, ¬ (y.course = x.course ∧ y.name = x.name)) :
    (s.sectionsNamed x.course x.name).getLast? = some ⟨x.visible⟩ := by
  have hafter : after.filter (fun y => y.course = x.course && y.name = x.name) = [] := by
    rw [List.filter_eq_nil_iff]
    intro y hy
    simpa using hlast y hy
  rw [sectionsNamed, h, List.filter_append, List.filter_cons_of_pos (by simp), hafter,
    List.map_append, List.map_singleton, List.getLast?_concat]

/-- A second completion of an activity by one user is never found. -/
theorem completion?_addCompletion {id : ActivityId} {user : UserId}
    (h : ∃ x ∈ s.completions, x.activity = id ∧ x.user = user) (time : Timestamp)
    (id' : ActivityId) (user' : UserId) :
    (s.addCompletion id user time).completion? id' user' = s.completion? id' user' := by
  rw [completion?, completion?, addCompletion, List.find?_append]
  cases hfind : s.completions.find? (fun x => x.activity = id' && x.user = user') with
  | some x => rfl
  | none =>
    -- nothing is recorded for what is asked, so it is not the pair that was added
    rw [List.find?_eq_none] at hfind
    obtain ⟨x, hx, rfl, rfl⟩ := h
    rw [List.find?_singleton, if_neg (hfind x hx), Option.none_or]

theorem backend_addCompletion {id : ActivityId} {user : UserId}
    (h : ∃ x ∈ s.completions, x.activity = id ∧ x.user = user) (time : Timestamp) :
    (s.addCompletion id user time).backend = s.backend := by
  rw [backend, backend]
  congr 1
  funext id' user'
  rw [completion?_addCompletion h]

end ProgressTable.Store
