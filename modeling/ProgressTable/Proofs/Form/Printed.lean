import Mathlib.Tactic
import ProgressTable.Command.Basic
import ProgressTable.Proofs.Json.Reader

/-!
# Printed forms are read back

Everything that is printed for a form is JSON text that is read back as the value it was printed
from: the description of the form, what fills it in, and what is saved. For that a value needs
plain numbers and rising keys (`Value.Plain`, `Value.Ordered`); most of this file goes through the
parts of a form and finds both.
-/

namespace ProgressTable

open Json

namespace Json

/-- The text is JSON for this value. -/
def Denotes (t : Text) (v : Value) : Prop := readText (Value.read Value.greatestDepth) t = .ok v

/-- The value of a member of the object that a text denotes. -/
def member? (name t : Text) : Option Value :=
  match readText (Value.read Value.greatestDepth) t with
  | .ok (.object ms) => ms.lookup name
  | _ => none

namespace Value

variable {v : Value}

theorem denotes_compact (hplain : v.Plain) (hordered : v.Ordered greatestDepth) :
    Denotes v.compact v :=
  readText_of_spells (reads_read hordered) hplain.spells_compact

theorem denotes_pretty (hplain : v.Plain) (hordered : v.Ordered greatestDepth) (level : Nat) :
    Denotes (v.pretty level) v :=
  readText_of_spells (reads_read hordered) (hplain.spells_pretty level)

theorem ordered_text (depth : Nat) (t : Text) : Ordered depth (.text t) := by
  cases depth <;> trivial

theorem ordered_number (depth : Nat) (n : Number) : Ordered depth (.number n) := by
  cases depth <;> trivial

/-- A member of what was written on lines. -/
theorem member?_pretty {ms : List (Text × Value)} (hplain : (Value.object ms).Plain)
    (hordered : (Value.object ms).Ordered greatestDepth) (level : Nat) (name : Text) :
    member? name ((Value.object ms).pretty level) = ms.lookup name := by
  have hread : readText (read greatestDepth) ((Value.object ms).pretty level) = .ok (.object ms) :=
    denotes_pretty hplain hordered level
  rw [member?, hread]

end Value
end Json

/-! ## What fills in a form -/

namespace Submission

theorem plain_toValue (d : Submission) : d.toValue.Plain := by
  refine .object fun m hm => ?_
  obtain ⟨e, -, rfl⟩ := List.mem_map.1 hm
  exact .text e.2

theorem ordered_toValue (d : Submission) (depth : Nat) : d.toValue.Ordered (depth + 1) := by
  refine ⟨?_, fun m hm => ?_⟩
  · rw [List.map_map]
    exact d.values.rising
  · obtain ⟨e, -, rfl⟩ := List.mem_map.1 hm
    exact Value.ordered_text depth e.2

/-- What fills in a form is read as the form. -/
theorem ofJson_of_denotes {d : Submission} {t : Text} (h : Denotes t d.toValue) :
    ofJson t = .ok d := by
  obtain ⟨read, hread, hentries⟩ := Value.readText_dict h
  have hgreatest : readText (dict (Value.read greatestDepth)) t = .ok read := hread
  simp only [ofJson, hgreatest, bind, Except.bind, hentries, List.filterMap_map]
  -- every value is a text, and a text is the text of its field
  show Except.ok (⟨.ofList (d.values.entries.filterMap some)⟩ : Submission) = .ok d
  rw [List.filterMap_some, Dict.ofList_entries]

end Submission

/-! ## The description of a form -/

theorem plain_sortedObject {ms : List (Text × Value)} (h : ∀ m ∈ ms, m.2.Plain) :
    (sortedObject ms).Plain :=
  .object fun m hm => h m (Dict.mem_of_mem_entries_ofList m hm)

theorem ordered_sortedObject {ms : List (Text × Value)} {depth : Nat}
    (h : ∀ m ∈ ms, m.2.Ordered depth) : (sortedObject ms).Ordered (depth + 1) :=
  ⟨(Dict.ofList ms).rising, fun m hm => h m (Dict.mem_of_mem_entries_ofList m hm)⟩

/-- The numbers that say how a value is entered fit a word. -/
def Input.Fits : Input → Prop
  | .textArea rows cols => rows < Word.bound64 ∧ cols < Word.bound64
  | _ => True

theorem plain_members {i : Input} (h : i.Fits) : ∀ m ∈ i.members, m.2.Plain := by
  cases i with
  | textArea rows cols =>
    simp only [Input.members, List.forall_mem_cons, List.not_mem_nil, false_imp_iff, implies_true,
      and_true]
    exact ⟨.text _, Value.plain_nat h.1, Value.plain_nat h.2⟩
  | hidden value => simp [Input.members, Value.Plain.text]
  | note t => simp [Input.members, Value.Plain.text]
  | text => simp [Input.members, Value.Plain.text]
  | heading => simp [Input.members, Value.Plain.text]
  | dateSelector => simp [Input.members, Value.Plain.text]
  | checkbox => simp [Input.members, Value.Plain.text]

theorem ordered_members (i : Input) (depth : Nat) : ∀ m ∈ i.members, m.2.Ordered depth := by
  cases i <;>
    simp [Input.members, Value.nat, Value.ordered_text, Value.ordered_number]

namespace FormField

variable {f : FormField}

theorem plain_toValue (h : f.input.Fits) : f.toValue.Plain := by
  apply plain_sortedObject
  intro m hm
  rcases List.mem_append.1 hm with hm | hm
  · rcases List.mem_append.1 hm with hm | hm
    · simp only [List.mem_cons, List.not_mem_nil, or_false] at hm
      rcases hm with rfl | rfl <;> exact .text _
    · exact plain_members h m hm
  · split at hm
    · rw [List.mem_singleton.1 hm]
      exact .text _
    · exact absurd hm List.not_mem_nil

theorem ordered_toValue (f : FormField) (depth : Nat) : f.toValue.Ordered (depth + 1) := by
  apply ordered_sortedObject
  intro m hm
  rcases List.mem_append.1 hm with hm | hm
  · rcases List.mem_append.1 hm with hm | hm
    · simp only [List.mem_cons, List.not_mem_nil, or_false] at hm
      rcases hm with rfl | rfl <;> exact Value.ordered_text depth _
    · exact ordered_members f.input depth m hm
  · split at hm
    · rw [List.mem_singleton.1 hm]
      exact Value.ordered_text depth _
    · exact absurd hm List.not_mem_nil

end FormField

namespace FormItem

theorem plain_toValue {x : FormItem} (h : ∀ f ∈ x.fields, f.input.Fits) : x.toValue.Plain := by
  cases x with
  | field f => exact FormField.plain_toValue (h f List.mem_cons_self)
  | group name label fs disabledUnless =>
    apply plain_sortedObject
    simp only [List.forall_mem_cons, List.not_mem_nil, false_imp_iff, implies_true, and_true]
    refine ⟨.text _, .text _, .text _, .array fun v hv => ?_, .text _⟩
    obtain ⟨f, hf, rfl⟩ := List.mem_map.1 hv
    exact FormField.plain_toValue (h f hf)

theorem ordered_toValue (x : FormItem) (depth : Nat) : x.toValue.Ordered (depth + 3) := by
  cases x with
  | field f => exact FormField.ordered_toValue f (depth + 2)
  | group name label fs disabledUnless =>
    apply ordered_sortedObject
    simp only [List.forall_mem_cons, List.not_mem_nil, false_imp_iff, implies_true, and_true,
      Value.ordered_text, true_and]
    intro v hv
    obtain ⟨f, -, rfl⟩ := List.mem_map.1 hv
    exact FormField.ordered_toValue f depth

end FormItem

theorem fits_formItems (maxRanges : Nat) :
    ∀ x ∈ formItems maxRanges, ∀ f ∈ x.fields, f.input.Fits := by
  intro x hx f hf
  rcases List.mem_append.1 hx with hx | hx
  · simp only [List.mem_cons, List.not_mem_nil, or_false] at hx
    rcases hx with rfl | rfl | rfl | rfl | rfl <;> rw [List.mem_singleton.1 hf]
    -- the content is entered in a text area, the only input with numbers
    · exact ⟨by decide, by decide⟩
    all_goals trivial
  · obtain ⟨slot, -, rfl⟩ := List.mem_map.1 hx
    simp only [slotGroup, FormItem.fields, List.mem_cons, List.not_mem_nil, or_false] at hf
    rcases hf with rfl | rfl | rfl | rfl <;> trivial

namespace Command

variable (settings : Settings) (config : Option TableConfig)

theorem plain_formValue : (formValue settings config).Plain := by
  refine .object fun m hm => ?_
  rcases List.mem_append.1 hm with hm | hm
  · cases config with
    | none => exact absurd hm List.not_mem_nil
    | some c =>
      rw [List.mem_singleton.1 hm]
      exact Submission.plain_toValue _
  · simp only [List.mem_cons, List.not_mem_nil, or_false] at hm
    rcases hm with rfl | rfl | rfl
    · exact .text _
    · refine .array fun v hv => ?_
      obtain ⟨x, hx, rfl⟩ := List.mem_map.1 hv
      exact FormItem.plain_toValue (fits_formItems settings.maxRanges x hx)
    · exact .text _

theorem ordered_formValue (depth : Nat) : (formValue settings config).Ordered (depth + 5) := by
  refine ⟨?_, fun m hm => ?_⟩
  · cases config with
    | none =>
      have hkeys : ["element".toList, "fields".toList, "title".toList].Pairwise (· < ·) := by
        decide +kernel
      exact hkeys
    | some c =>
      have hkeys : ["defaults".toList, "element".toList, "fields".toList,
          "title".toList].Pairwise (· < ·) := by
        decide +kernel
      exact hkeys
  · rcases List.mem_append.1 hm with hm | hm
    · cases config with
      | none => exact absurd hm List.not_mem_nil
      | some c =>
        rw [List.mem_singleton.1 hm]
        exact Submission.ordered_toValue _ (depth + 3)
    · simp only [List.mem_cons, List.not_mem_nil, or_false] at hm
      rcases hm with rfl | rfl | rfl
      · exact Value.ordered_text _ _
      · intro v hv
        obtain ⟨x, -, rfl⟩ := List.mem_map.1 hv
        exact FormItem.ordered_toValue x depth
      · exact Value.ordered_text _ _

end Command

/-! ## What is saved -/

namespace Element

theorem plain_savedValue (s : SavedElement) : (savedValue s).Plain := by
  apply Value.Plain.object
  simp only [List.forall_mem_cons, List.not_mem_nil, false_imp_iff, implies_true, and_true]
  exact ⟨.text _, Value.plain_int64 _⟩

theorem ordered_savedValue (s : SavedElement) (depth : Nat) :
    (savedValue s).Ordered (depth + 1) := by
  have hkeys : ["data".toList, "width".toList].Pairwise (· < ·) := by decide +kernel
  refine ⟨hkeys, ?_⟩
  simp only [List.forall_mem_cons, List.not_mem_nil, false_imp_iff, implies_true, and_true]
  exact ⟨Value.ordered_text depth _, Value.ordered_number depth _⟩

end Element
end ProgressTable
