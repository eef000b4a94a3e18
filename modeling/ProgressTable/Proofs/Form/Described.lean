import Mathlib.Tactic
import ProgressTable.Form.Descriptor
import ProgressTable.Proofs.Form.Prefill

/-!
# Submitting a form as it is described

A host shows the fields that the description of a form names, and submits what it shows. The form is
described for the slots that are offered, but it is filled in with all stored ranges, and the number
of slots is raised to theirs. So a range behind the offered slots is counted and filled in, and
there is no field for it: when the form is submitted as it was opened, the range is gone
(`ofSubmission_describedForm`). Nothing is lost just if there are slots for all ranges, and a
description of as many slots as the form is filled in with would always have them.
-/

namespace ProgressTable

/-! ## The names in a description -/

/-- The names in a part of a form: its own, and those of the fields inside. -/
def FormItem.names : FormItem → List Text
  | field f => [f.name]
  | group name _ fs _ => name :: fs.map FormField.name

/-- The names in the description of a form. -/
def describedNames (maxRanges : Nat) : List Text := (formItems maxRanges).flatMap FormItem.names

namespace FieldName

/-- The names in a description that belong to no slot. -/
def headNames : List Text := [content, "dateranges".toList, "help".toList, fallback, numRanges]

/-- No name outside the slots continues a slot's, though one begins with the same letters. -/
theorem not_isPrefixOf_headNames :
    ∀ name ∈ headNames, ∀ b ∈ slotNames, b.isPrefixOf name = false := by decide +kernel

theorem ofSlot_not_mem_headNames {b : Text} (hb : b ∈ slotNames) (i : Nat) :
    ofSlot b i ∉ headNames := by
  intro hmem
  have hprefix : b.isPrefixOf (ofSlot b i) = true :=
    List.isPrefixOf_iff_prefix.2 (List.prefix_append b _)
  rw [not_isPrefixOf_headNames _ hmem b hb] at hprefix
  exact absurd hprefix (by decide)

/-- A field of a slot has another name than the group of any slot. -/
theorem ofSlot_group_ne {b : Text} (hb : b ∈ slotNames) (i j : Nat) :
    ofSlot group j ≠ ofSlot b i := by
  have hheads : ∀ b ∈ slotNames, group.head? ≠ b.head? := by decide +kernel
  apply ne_ofSlot_of_head?_ne (ne_nil_of_mem_slotNames hb)
  rw [head?_ofSlot group_ne_nil]
  exact hheads b hb

end FieldName

theorem names_slotGroup (slot : Nat) :
    (slotGroup slot).names
      = (FieldName.group :: FieldName.slotNames).map fun b => FieldName.ofSlot b slot := rfl

theorem describedNames_eq (maxRanges : Nat) :
    describedNames maxRanges = FieldName.headNames
      ++ (List.range maxRanges).flatMap fun slot => (slotGroup slot).names := by
  rw [describedNames, formItems, List.flatMap_append, List.flatMap_map]
  rfl

/-- The fields of a slot are described if the slot is offered. -/
theorem ofSlot_mem_describedNames {b : Text} (hb : b ∈ FieldName.slotNames) {i maxRanges : Nat} :
    FieldName.ofSlot b i ∈ describedNames maxRanges ↔ i < maxRanges := by
  rw [describedNames_eq, List.mem_append, List.mem_flatMap]
  constructor
  · rintro (hmem | ⟨slot, hslot, hmem⟩)
    · exact absurd hmem (FieldName.ofSlot_not_mem_headNames hb i)
    · rw [names_slotGroup] at hmem
      obtain ⟨b', hb', he⟩ := List.mem_map.1 hmem
      rcases List.mem_cons.1 hb' with rfl | hb'
      · exact absurd he (FieldName.ofSlot_group_ne hb i slot)
      · obtain ⟨-, rfl⟩ := FieldName.ofSlot_inj hb' hb he
        exact List.mem_range.1 hslot
  · intro hi
    refine .inr ⟨i, List.mem_range.2 hi, ?_⟩
    rw [names_slotGroup]
    exact List.mem_map.2 ⟨b, List.mem_cons_of_mem _ hb, rfl⟩

/-! ## The submitted fields -/

/-- The fields of a form that have these names. -/
def Submission.only (d : Submission) (names : List Text) : Submission := ⟨d.values.restrict names⟩

namespace TableConfig

variable (c : TableConfig) (submitted : Submission) (maxRanges : Nat)

/-- What is submitted of a form that was filled in from a configuration, if `maxRanges` slots are
described and nothing is changed. -/
def describedForm : Submission := (c.toSubmission submitted).only (describedNames maxRanges)

theorem get?_describedForm (x : Text) :
    (c.describedForm submitted maxRanges).get? x
      = if x ∈ describedNames maxRanges then (c.toSubmission submitted).get? x else none :=
  Dict.get?_restrict _ _ x

/-- What belongs to no slot is always shown. -/
theorem get?_describedForm_of_headNames {x : Text} (h : x ∈ FieldName.headNames) :
    (c.describedForm submitted maxRanges).get? x = (c.toSubmission submitted).get? x := by
  rw [get?_describedForm, if_pos]
  rw [describedNames_eq]
  exact List.mem_append_left _ h

theorem numRanges_describedForm :
    (c.describedForm submitted maxRanges).numRanges = (c.toSubmission submitted).numRanges := by
  rw [Submission.numRanges, Submission.int?,
    get?_describedForm_of_headNames c submitted maxRanges (by simp [FieldName.headNames])]
  rfl

/-- A slot is submitted as it was filled in if it is offered, and not at all otherwise. -/
theorem rangeAt_describedForm (i : Nat) :
    (c.describedForm submitted maxRanges).rangeAt i
      = if i < maxRanges then (c.toSubmission submitted).rangeAt i else ⟨0, 0, [], false⟩ := by
  split
  · next hi =>
    apply Submission.rangeAt_congr
    intro b hb
    rw [get?_describedForm, if_pos ((ofSlot_mem_describedNames hb).2 hi)]
  · next hi =>
    apply Submission.rangeAt_of_none
    intro b hb
    rw [get?_describedForm, if_neg fun hmem => hi ((ofSlot_mem_describedNames hb).1 hmem)]

/-- The slots hold the ranges as far as they are offered, and the slots behind them are empty. -/
theorem map_rangeAt_describedForm (k : Nat) :
    (List.range (c.ranges.length + k)).map (c.describedForm submitted maxRanges).rangeAt
      = c.ranges.take maxRanges
        ++ List.replicate (c.ranges.length - maxRanges + k) ⟨0, 0, [], false⟩ := by
  have hfilled := map_rangeAt_toSubmission c submitted k
  apply List.ext_getElem
  · simp only [List.length_map, List.length_range, List.length_append, List.length_take,
      List.length_replicate]
    omega
  · intro i hi _
    have hslot := List.getElem_of_eq hfilled (i := i) (by simpa using hi)
    rw [List.getElem_map, List.getElem_range] at hslot
    rw [List.getElem_map, List.getElem_range, rangeAt_describedForm, hslot]
    simp only [List.getElem_append, List.getElem_take, List.getElem_replicate, List.length_take]
    split_ifs <;> first | rfl | omega

/-- Of a form that is submitted as it is described, the ranges of the offered slots are saved. -/
theorem ofSubmission_describedForm (h : c.ranges.length < Word.bound63) :
    ofSubmission (c.describedForm submitted maxRanges)
      = ({ c with ranges := c.ranges.take maxRanges } : TableConfig).labelled := by
  have hranges : (ofSubmission (c.describedForm submitted maxRanges)).ranges
      = (c.ranges.take maxRanges).filter fun r => r.label ≠ [] := by
    obtain ⟨k, hk⟩ := Nat.exists_eq_add_of_le
      (Nat.le_max_right submitted.numRanges c.ranges.length)
    rw [ranges_ofSubmission, numRanges_describedForm, numRanges_toSubmission c submitted h, hk,
      map_rangeAt_describedForm, List.filter_append, filter_replicate_empty, List.append_nil]
  have hcontent : (c.describedForm submitted maxRanges).text FieldName.content = c.content := by
    rw [Submission.text,
      get?_describedForm_of_headNames c submitted maxRanges (by simp [FieldName.headNames])]
    exact text_content_toSubmission c submitted
  have hfallback : (c.describedForm submitted maxRanges).text FieldName.fallback = c.fallback := by
    rw [Submission.text,
      get?_describedForm_of_headNames c submitted maxRanges (by simp [FieldName.headNames])]
    exact text_fallback_toSubmission c submitted
  calc ofSubmission (c.describedForm submitted maxRanges)
      = ⟨(c.describedForm submitted maxRanges).text FieldName.content,
          (c.describedForm submitted maxRanges).text FieldName.fallback,
          (ofSubmission (c.describedForm submitted maxRanges)).ranges⟩ := rfl
    _ = _ := by rw [hcontent, hfallback, hranges, labelled]

/-- Labels on all ranges are labels on the first ones. -/
theorem labelled_take (h : ∀ r ∈ c.ranges, r.label ≠ []) :
    ({ c with ranges := c.ranges.take maxRanges } : TableConfig).labelled
      = { c with ranges := c.ranges.take maxRanges } := by
  have hranges : (c.ranges.take maxRanges).filter (fun r => r.label ≠ [])
      = c.ranges.take maxRanges := by
    rw [List.filter_eq_self]
    intro r hr
    simpa using h r (List.mem_of_mem_take hr)
  rw [labelled, hranges]

/-- A form that is filled in from ranges with labels and submitted as it is described keeps the
ranges of the offered slots, so it loses the others: nothing is lost just if there is a slot for
each range. If slots were described for all ranges that are filled in, nothing would be lost. -/
theorem describedForm_keeps_offered (hlen : c.ranges.length < 2 ^ 63)
    (hlabels : ∀ r ∈ c.ranges, r.label ≠ []) :
    let offered := Submission.empty.set FieldName.numRanges (Numeral.ofNat maxRanges)
    let saved (slots : Nat) := ofSubmission (c.describedForm offered slots)
    saved maxRanges = { c with ranges := c.ranges.take maxRanges }
    ∧ (saved maxRanges = c ↔ c.ranges.length ≤ maxRanges)
    ∧ saved (max maxRanges c.ranges.length) = c := by
  intro offered saved
  have hsaved (slots : Nat) : saved slots = { c with ranges := c.ranges.take slots } :=
    (ofSubmission_describedForm c offered slots hlen).trans (labelled_take c slots hlabels)
  have hwhole (slots : Nat) : saved slots = c ↔ c.ranges.length ≤ slots := by
    rw [hsaved, ← List.take_eq_self_iff]
    exact ⟨congrArg ranges, fun h => by rw [h]⟩
  exact ⟨hsaved maxRanges, hwhole maxRanges, (hwhole _).2 (Nat.le_max_right _ _)⟩

/-- Two ranges in a form with a single slot: the second one is counted and filled in, but not
saved. -/
theorem describedForm_keeps_offered_two :
    let spring : DateRange := ⟨0, 9, "Spring".toList, true⟩
    let autumn : DateRange := ⟨10, 19, "Autumn".toList, true⟩
    let c : TableConfig := ⟨"| Week 1 |".toList, [], [spring, autumn]⟩
    let offered := Submission.empty.set FieldName.numRanges (Numeral.ofNat 1)
    (c.describedForm offered 1).numRanges = 2
      ∧ ofSubmission (c.describedForm offered 1) = { c with ranges := [spring] }
      ∧ ofSubmission (c.describedForm offered 2) = c := by
  intro spring autumn c offered
  obtain ⟨hsaved, -, hwhole⟩ := describedForm_keeps_offered c 1 (by decide) (by decide +kernel)
  exact ⟨by decide +kernel, hsaved, hwhole⟩

end TableConfig
end ProgressTable
