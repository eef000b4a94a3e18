import ProgressTable.Json.Value
import ProgressTable.Lookup.Backend

/-!
# Stores

A store holds in memory what a course would say: which activities there are, who completed what,
the sections of the courses, and the course of each element. Of several completions of one activity
by one user the first one counts; of several sections with one name all are given, in their order.
-/

namespace ProgressTable

/-- A completion in a store. -/
structure StoredCompletion where
  activity : ActivityId
  user : UserId
  completedAt : Timestamp
deriving Repr, DecidableEq

/-- A section in a store. -/
structure StoredSection where
  course : CourseId
  name : Text
  visible : Bool
deriving Repr, DecidableEq

/-- What courses say, kept in memory. -/
structure Store where
  activities : List ActivityId
  completions : List StoredCompletion
  sections : List StoredSection
  /-- The course of each element, under the numeral of the element. -/
  elements : Dict CourseId
deriving DecidableEq

namespace Store

/-- The store without contents. -/
def empty : Store := ⟨[], [], [], .empty⟩

/-! ## Adding -/

/-- Adds an activity. -/
def addActivity (s : Store) (id : ActivityId) : Store :=
  { s with activities := s.activities ++ [id] }

/-- Adds a completion. -/
def addCompletion (s : Store) (id : ActivityId) (user : UserId) (time : Timestamp) : Store :=
  { s with completions := s.completions ++ [⟨id, user, time⟩] }

/-- Adds a section. -/
def addSection (s : Store) (course : CourseId) (name : Text) (visible : Bool) : Store :=
  { s with sections := s.sections ++ [⟨course, name, visible⟩] }

/-- Sets the course of an element. -/
def addElement (s : Store) (element : ElementId) (course : CourseId) : Store :=
  { s with elements := s.elements.insert (Numeral.ofInt64 element) course }

/-! ## Answers -/

/-- Whether an activity exists. -/
def hasActivity (s : Store) (id : ActivityId) : Bool := s.activities.contains id

/-- A user's first completion of an activity. -/
def completion? (s : Store) (id : ActivityId) (user : UserId) : Option CompletionRecord :=
  (s.completions.find? fun c => c.activity = id && c.user = user).map fun c => ⟨c.completedAt⟩

/-- The sections of a course with this name. -/
def sectionsNamed (s : Store) (course : CourseId) (name : Text) : List SectionRecord :=
  (s.sections.filter fun x => x.course = course && x.name = name).map fun x => ⟨x.visible⟩

/-- The course of an element. -/
def courseOf? (s : Store) (element : ElementId) : Option CourseId :=
  s.elements.get? (Numeral.ofInt64 element)

/-- The backend that answers from a store and never fails. -/
def backend (s : Store) : Backend where
  sections course label := .ok (s.sectionsNamed course label)
  activityExists id := .ok (s.hasActivity id)
  completion id user := .ok (s.completion? id user)

/-! ## As JSON -/

open Json

/-- How a completion is read. -/
def completionRecord : Record StoredCompletion where
  name := "struct StoredCompletion".toList
  fields := [
    .needed "activity".toList [] Json.text fun x c => { c with activity := x },
    .needed "user".toList [] int64 fun x c => { c with user := x },
    .needed "completed_at".toList [] int64 fun x c => { c with completedAt := x }]
  initial := ⟨[], 0, 0⟩

/-- How a section is read; it is visible unless it says otherwise. -/
def sectionRecord : Record StoredSection where
  name := "struct StoredSection".toList
  fields := [
    .needed "course".toList [] int64 fun x s => { s with course := x },
    .needed "name".toList [] Json.text fun x s => { s with name := x },
    .optional "visible".toList bool fun x s => { s with visible := x }]
  initial := ⟨0, [], true⟩

/-- How a store is read. -/
def record : Record Store where
  name := "struct MemoryStore".toList
  fields := [
    .optional "activities".toList (array Json.text) fun x s => { s with activities := x },
    .optional "completions".toList (array completionRecord.read) fun x s =>
      { s with completions := x },
    .optional "sections".toList (array sectionRecord.read) fun x s => { s with sections := x },
    .optional "elements".toList (dict int64) fun x s => { s with elements := x }]
  initial := .empty

/-- Reads a store. -/
def ofJson (t : Text) : Except Error Store := readText record.read t

/-- A store as a JSON value. -/
def toValue (s : Store) : Value := .object [
  ("activities".toList, .array (s.activities.map .text)),
  ("completions".toList, .array (s.completions.map fun c => .object [
    ("activity".toList, .text c.activity),
    ("user".toList, .int64 c.user),
    ("completed_at".toList, .int64 c.completedAt)])),
  ("sections".toList, .array (s.sections.map fun x => .object [
    ("course".toList, .int64 x.course),
    ("name".toList, .text x.name),
    ("visible".toList, .bool x.visible)])),
  ("elements".toList, .ofDict .int64 s.elements)]

/-- Writes a store. -/
def toJson (s : Store) : Text := s.toValue.compact

end Store

/-! ## Failing backends -/

namespace Backend

/-- The backend that fails on some questions and answers the others as before. -/
def failing (b : Backend) (fails : Call → Option LookupError) : Backend where
  sections course label := match fails (.sections course label) with
    | some e => .error e
    | none => b.sections course label
  activityExists id := match fails (.activity id) with
    | some e => .error e
    | none => b.activityExists id
  completion id user := match fails (.completion id user) with
    | some e => .error e
    | none => b.completion id user

end Backend
end ProgressTable
