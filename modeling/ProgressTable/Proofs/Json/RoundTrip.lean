import Mathlib.Tactic
import ProgressTable.Proofs.Form.Printed
import ProgressTable.Proofs.Json.Record
import ProgressTable.Proofs.Lookup.Store

/-!
# Stores and forms as texts

A store and a submitted form are read back from what is written for them. Neither reader is the
plain inverse of its writer. The courses of the elements may be written in any order, so a store
has many texts (`Store.valueWith`). A form is read from any values that stand for the texts of its
fields (`Submission.StandsFor`): numbers and ticked boxes may be given as such.
-/

namespace ProgressTable

open Json

namespace Json.Value

/-- The text is the value, written without blanks or on indented lines. -/
def IsWritten (v : Value) (t : Text) : Prop := t = v.compact ∨ ∃ level, t = v.pretty level

theorem Plain.spells_of_isWritten {v : Value} {t : Text} (h : v.Plain) (ht : v.IsWritten t) :
    Spells v.tokens t := by
  rcases ht with rfl | ⟨level, rfl⟩
  · exact h.spells_compact
  · exact h.spells_pretty level

end Json.Value

/-! ## Stores -/

namespace Store

/-- What is written for a completion. -/
def completionValue (c : StoredCompletion) : Value :=
  .object [("activity".toList, .text c.activity), ("user".toList, .int64 c.user),
    ("completed_at".toList, .int64 c.completedAt)]

/-- What is written for a section. -/
def sectionValue (x : StoredSection) : Value :=
  .object [("course".toList, .int64 x.course), ("name".toList, .text x.name),
    ("visible".toList, .bool x.visible)]

/-- A store as a JSON value in which the elements stand in this order. -/
def valueWith (s : Store) (elements : List (Text × CourseId)) : Value :=
  .object [("activities".toList, .array (s.activities.map .text)),
    ("completions".toList, .array (s.completions.map completionValue)),
    ("sections".toList, .array (s.sections.map sectionValue)),
    ("elements".toList, .object (elements.map fun e => (e.1, .int64 e.2)))]

theorem valueWith_entries (s : Store) : s.valueWith s.elements.entries = s.toValue := rfl

variable (s : Store) (elements : List (Text × CourseId))

theorem plain_valueWith : (s.valueWith elements).Plain := by
  apply Value.Plain.object
  simp only [List.forall_mem_cons, List.not_mem_nil, false_imp_iff, implies_true, and_true]
  refine ⟨.array ?_, .array ?_, .array ?_, .object ?_⟩
  all_goals simp only [List.forall_mem_map]
  · exact fun id _ => .text id
  · intro c _
    apply Value.Plain.object
    simp only [List.forall_mem_cons, List.not_mem_nil, false_imp_iff, implies_true, and_true]
    exact ⟨.text _, Value.plain_int64 _, Value.plain_int64 _⟩
  · intro x _
    apply Value.Plain.object
    simp only [List.forall_mem_cons, List.not_mem_nil, false_imp_iff, implies_true, and_true]
    exact ⟨Value.plain_int64 _, .text _, .bool _⟩
  · exact fun e _ => Value.plain_int64 e.2

theorem reads_completionValue (c : StoredCompletion) :
    Reads completionRecord.read (completionValue c).tokens c := by
  apply Record.reads_object
  exact .cons rfl (by decide) (Record.reads_needed (reads_text c.activity) _ _ _)
    (.cons rfl (by decide) (Record.reads_needed (reads_int64 c.user) _ _ _)
      (.cons rfl (by decide) (Record.reads_needed (reads_int64 c.completedAt) _ _ _)
        (.nil rfl)))

theorem reads_sectionValue (x : StoredSection) :
    Reads sectionRecord.read (sectionValue x).tokens x := by
  apply Record.reads_object
  exact .cons rfl (by decide) (Record.reads_needed (reads_int64 x.course) _ _ _)
    (.cons rfl (by decide) (Record.reads_needed (reads_text x.name) _ _ _)
      (.cons rfl (by decide) (Record.reads_optional (reads_bool x.visible) _ _)
        (.nil rfl)))

variable {s elements}

/-- A store is read back from its value, whatever the order of its elements. -/
theorem reads_valueWith (h : elements.Perm s.elements.entries) :
    Reads record.read (s.valueWith elements).tokens s := by
  have helements : Reads (dict int64)
      (Value.object (elements.map fun e => (e.1, .int64 e.2))).tokens s.elements := by
    rw [← Dict.ofList_eq_of_perm h]
    apply reads_dict_ofList
    rw [ReadsMembers, List.forall₂_map_left_iff]
    exact List.forall₂_same.2 fun e _ => ⟨rfl, reads_int64 e.2⟩
  apply Record.reads_object
  exact .cons rfl (by decide) (Record.reads_optional (reads_array_map reads_text _) _ _)
    (.cons rfl (by decide) (Record.reads_optional (reads_array_map reads_completionValue _) _ _)
      (.cons rfl (by decide) (Record.reads_optional (reads_array_map reads_sectionValue _) _ _)
        (.cons rfl (by decide) (Record.reads_optional helements _ _)
          (.nil rfl))))

theorem ofJson_of_isWritten (h : elements.Perm s.elements.entries) {t : Text}
    (ht : (s.valueWith elements).IsWritten t) : ofJson t = .ok s :=
  readText_of_spells (reads_valueWith h) ((plain_valueWith s elements).spells_of_isWritten ht)

end Store

/-! ## Forms -/

namespace Submission

/-- The values that stand for a text in a field. -/
inductive StandsFor : Value → Text → Prop
  | text (t : Text) : StandsFor (.text t) t
  /-- A number stands for its canonical numeral. -/
  | number (n : Int64) : StandsFor (.int64 n) (Numeral.ofInt64 n)
  | ticked : StandsFor (.bool true) ['1']
  | unticked : StandsFor (.bool false) []

namespace StandsFor

variable {v : Value} {t : Text}

theorem fieldText?_eq (h : StandsFor v t) : fieldText? v = some t := by
  cases h <;> rfl

theorem plain (h : StandsFor v t) : v.Plain := by
  cases h with
  | text t => exact .text t
  | number n => exact Value.plain_int64 n
  | ticked => exact .bool true
  | unticked => exact .bool false

theorem ordered (h : StandsFor v t) (depth : Nat) : v.Ordered depth := by
  cases h with
  | text t => exact Value.ordered_text depth t
  | number n => exact Value.ordered_number depth _
  | ticked => cases depth <;> trivial
  | unticked => cases depth <;> trivial

end StandsFor

/-- The members name the fields of the form, in order, with values that stand for their texts. -/
def Describes (ms : List (Text × Value)) (d : Submission) : Prop :=
  List.Forall₂ (fun m e => m.1 = e.1 ∧ StandsFor m.2 e.2) ms d.values.entries

theorem describes_toValue (d : Submission) :
    Describes (d.values.entries.map fun e => (e.1, .text e.2)) d := by
  rw [Describes, List.forall₂_map_left_iff]
  exact List.forall₂_same.2 fun e _ => ⟨rfl, .text e.2⟩

namespace Describes

variable {ms : List (Text × Value)} {d : Submission}

theorem exists_standsFor (h : Describes ms d) : ∀ m ∈ ms, ∃ t, StandsFor m.2 t := by
  intro m hm
  obtain ⟨i, hi, rfl⟩ := List.getElem_of_mem hm
  have hlen : ms.length = d.values.entries.length := h.length_eq
  exact ⟨_, (h.get hi (hlen ▸ hi)).2⟩

theorem keys (h : Describes ms d) : ms.map Prod.fst = d.values.keys := by
  rw [Dict.keys, ← List.forall₂_eq_eq_eq, List.forall₂_map_left_iff, List.forall₂_map_right_iff]
  exact h.imp fun m e hme => hme.1

theorem fields (h : Describes ms d) :
    ms.filterMap (fun (k, v) => (fieldText? v).map fun x => (k, x)) = d.values.entries := by
  rw [Describes] at h
  generalize d.values.entries = es at h
  -- no field is null, so each member gives the entry of its field
  induction h with
  | nil => rfl
  | @cons m e ms es hme _ ih =>
    obtain ⟨k, v⟩ := m
    obtain ⟨hkey : k = e.1, hvalue : StandsFor v e.2⟩ := hme
    simp only [List.filterMap_cons, hvalue.fieldText?_eq, Option.map_some, ih, hkey]

/-- A form is read from any values that stand for the texts of its fields. -/
theorem ofJson_eq (h : Describes ms d) {t : Text} (ht : (Value.object ms).IsWritten t) :
    ofJson t = .ok d := by
  have hplain : (Value.object ms).Plain := by
    refine .object fun m hm => ?_
    obtain ⟨t, hm⟩ := h.exists_standsFor m hm
    exact hm.plain
  have hrising : (ms.map Prod.fst).Pairwise (· < ·) := by
    rw [h.keys]
    exact d.values.rising
  have hmembers : ReadsMembers (Value.read greatestDepth) ms ms := by
    refine List.forall₂_same.2 fun m hm => ⟨rfl, Value.reads_read ?_⟩
    obtain ⟨t, hm⟩ := h.exists_standsFor m hm
    exact hm.ordered greatestDepth
  have hread : readText (dict (Value.read greatestDepth)) t = .ok ⟨ms, hrising⟩ :=
    readText_of_spells (reads_dict (d := ⟨ms, hrising⟩) hmembers) (hplain.spells_of_isWritten ht)
  simp only [ofJson, hread, bind, Except.bind]
  rw [h.fields, Dict.ofList_entries]
  rfl

end Describes
end Submission

/-! ## Both -/

/-- A store is read back from its text, whatever the order of its elements and however it is laid
out. So a store that was read gives every answer that the one which was written gives: the first
completion of an activity by a user, the last section of several with one name, and the course of
each element. A submitted form is read back from its text, and also where a number stands in the
place of its canonical numeral, a ticked box in the place of a one, and an unticked one in the place
of an empty text. -/
theorem ofJson_written :
    (∀ s : Store, Store.ofJson s.toJson = .ok s)
    ∧ (∀ (s : Store) (elements : List (Text × CourseId)) (t : Text),
      elements.Perm s.elements.entries → (s.valueWith elements).IsWritten t →
      Store.ofJson t = .ok s)
    ∧ (∀ (s read : Store) (elements : List (Text × CourseId)) (t : Text),
      elements.Perm s.elements.entries → (s.valueWith elements).IsWritten t →
      Store.ofJson t = .ok read →
      (∀ id, read.hasActivity id = s.hasActivity id)
      ∧ (∀ c before after, s.completions = before ++ c :: after →
        (∀ x ∈ before, ¬ (x.activity = c.activity ∧ x.user = c.user)) →
        read.completion? c.activity c.user = some ⟨c.completedAt⟩)
      ∧ (∀ x before after, s.sections = before ++ x :: after →
        (∀ y ∈ after, ¬ (y.course = x.course ∧ y.name = x.name)) →
        (read.sectionsNamed x.course x.name).getLast? = some ⟨x.visible⟩)
      ∧ ∀ element, read.courseOf? element = s.courseOf? element)
    ∧ (∀ d : Submission, Submission.ofJson d.toJson = .ok d)
    ∧ ∀ (d : Submission) (ms : List (Text × Value)) (t : Text),
      Submission.Describes ms d → (Value.object ms).IsWritten t → Submission.ofJson t = .ok d := by
  refine ⟨fun s => ?_, ?_, ?_, fun d => ?_, ?_⟩
  · refine Store.ofJson_of_isWritten (.refl _) (.inl ?_)
    rw [Store.toJson, ← s.valueWith_entries]
  · exact fun s elements t helements ht => Store.ofJson_of_isWritten helements ht
  · intro s read elements t helements ht hread
    -- it is the store that was written
    rw [Store.ofJson_of_isWritten helements ht] at hread
    obtain rfl := Except.ok.inj hread
    refine ⟨fun _ => rfl, ?_, ?_, fun _ => rfl⟩
    · exact fun c before after h hfirst => Store.completion?_eq_first h hfirst
    · exact fun x before after h hlast => Store.sectionsNamed_eq_last h hlast
  · exact (Submission.describes_toValue d).ofJson_eq (.inl rfl)
  · exact fun d ms t h ht => h.ofJson_eq ht

/-- A store with names that need escapes, an activity, a completion and a section given twice, and
its elements written in another order on lines; and a form with the least number there is, with a
box ticked and one not, and with a numeral that is not canonical. -/
theorem ofJson_written_escaped :
    let s : Store := ⟨["\"\\".toList, [], "\"\\".toList],
      [⟨[], -7, 2⟩, ⟨"\"\\".toList, -7, Int64.minValue⟩, ⟨[], -7, 1⟩],
      [⟨3, "é\n".toList, true⟩, ⟨3, "é\n".toList, false⟩],
      .ofList [("-1".toList, 3), ("12".toList, 4), ("012".toList, 5)]⟩
    let elements : List (Text × CourseId) :=
      [("12".toList, 4), ("012".toList, 5), ("-1".toList, 3)]
    let d : Submission := ⟨.ofList [("a".toList, "-9223372036854775808".toList),
      ("b".toList, ['1']), ("c".toList, []), ("d".toList, "01".toList)]⟩
    let t : Text :=
      "\x7b\"a\":-9223372036854775808,\"b\":true,\"c\":false,\"d\":\"01\"\x7d".toList
    ∃ read, Store.ofJson ((s.valueWith elements).pretty 0) = .ok read
      ∧ read.completion? [] (-7) = some ⟨2⟩
      ∧ (read.sectionsNamed 3 "é\n".toList).getLast? = some ⟨false⟩
      ∧ read.courseOf? 12 = some 4 ∧ Submission.ofJson t = .ok d := by
  intro s elements d t
  obtain ⟨-, hstore, hread, -, hform⟩ := ofJson_written
  have helements : elements.Perm s.elements.entries := by decide +kernel
  have hpretty : (s.valueWith elements).IsWritten ((s.valueWith elements).pretty 0) := .inr ⟨0, rfl⟩
  obtain ⟨-, hfirst, hlast, hcourse⟩ :=
    hread s s elements _ helements hpretty (hstore s elements _ helements hpretty)
  refine ⟨s, hstore s elements _ helements hpretty, hfirst _ [] _ rfl (by simp),
    hlast _ [⟨3, "é\n".toList, true⟩] [] rfl (by simp), ?_, ?_⟩
  · rw [hcourse]
    decide +kernel
  · refine hform d [("a".toList, .int64 Int64.minValue), ("b".toList, .bool true),
      ("c".toList, .bool false), ("d".toList, .text "01".toList)] t ?_ (.inl (by decide +kernel))
    have hnumeral : Numeral.ofInt64 Int64.minValue = "-9223372036854775808".toList := by
      decide +kernel
    have hentries : d.values.entries = [("a".toList, Numeral.ofInt64 Int64.minValue),
        ("b".toList, ['1']), ("c".toList, []), ("d".toList, "01".toList)] := by
      rw [hnumeral]
      decide +kernel
    rw [Submission.Describes, hentries]
    exact .cons ⟨rfl, .number _⟩ (.cons ⟨rfl, .ticked⟩ (.cons ⟨rfl, .unticked⟩
      (.cons ⟨rfl, .text _⟩ .nil)))

end ProgressTable
