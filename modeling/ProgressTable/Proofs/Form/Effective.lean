import Mathlib.Tactic
import ProgressTable.Element.Element
import ProgressTable.Proofs.Command.ShownLabel
import ProgressTable.Proofs.Form.Errors

/-!
# Ticked slots take effect

If no slot of a form is found wrong, then every ticked slot is saved as it was submitted: it has a
label, so it is not left out, and the saved ranges that are enabled are those of the ticked slots by
rising numbers. Each of them starts before it ends, so it holds its own start, and its label is
shown there unless an earlier enabled range holds that time too (`ticked_slots_take_effect`).
-/

namespace ProgressTable

variable {d : Submission}

/-- Among the saved ranges, the enabled ones are those of the ticked slots, if these have labels. -/
theorem TableConfig.enabled_ranges_ofSubmission
    (h : ∀ slot < d.numRanges, d.enabledAt slot = true → d.labelOf slot ≠ []) :
    (ofSubmission d).ranges.filter DateRange.enabled
      = ((List.range d.numRanges).filter d.enabledAt).map d.rangeAt := by
  rw [ranges_ofSubmission, List.filter_filter, List.filter_map]
  congr 1
  apply List.filter_congr
  intro slot hslot
  have hrange : (d.rangeAt slot).enabled = d.enabledAt slot
      ∧ (d.rangeAt slot).label = d.labelOf slot := ⟨rfl, rfl⟩
  rw [Function.comp_apply, hrange.1, hrange.2]
  cases hticked : d.enabledAt slot with
  | false => rfl
  | true => simpa using h slot (List.mem_range.1 hslot) hticked

/-- A slot that takes effect shows its label at its start, unless an earlier one does. -/
theorem Submission.label_start {slot : Nat} (hlt : slot < d.numRanges)
    (henabled : d.enabledAt slot = true) (hlabel : d.labelOf slot ≠ [])
    (hrange : d.startOf slot ≤ d.stopOf slot)
    (hearlier : ∀ earlier < slot, d.enabledAt earlier = true →
      ¬ (d.startOf earlier ≤ d.startOf slot ∧ d.startOf slot ≤ d.stopOf earlier))
    (format : DateText) :
    ((TableConfig.ofSubmission d).labels format).label (some (d.startOf slot))
      = d.labelOf slot := by
  have hstart : d.startOf slot ≤ d.startOf slot := Int64.le_iff_toInt_le.2 (le_refl _)
  have hshows : d.Shows (d.startOf slot) slot := ⟨hlt, henabled, hlabel, hstart, hrange⟩
  exact (d.showsLabel_labels _ format).unique (.slot hshows fun earlier he hs =>
    hearlier earlier he hs.enabled ⟨hs.start_le, hs.le_stop⟩)

/-- If no error stands under the group of a slot, then the enabled ranges that are saved are those
of the ticked slots in the order of their numbers, as they were submitted; each of them has a label
and starts before it ends; and at its start its label is shown, unless an earlier ticked slot holds
that time. -/
theorem ticked_slots_take_effect (d : Submission) (page : Option Page)
    (h : ∀ slot, (Element.validate d page).get? (FieldName.ofSlot FieldName.group slot) = none) :
    (TableConfig.ofSubmission d).ranges.filter DateRange.enabled
      = ((List.range d.numRanges).filter d.enabledAt).map
        (fun slot => ⟨d.startOf slot, d.stopOf slot, d.labelOf slot, true⟩)
    ∧ ∀ slot < d.numRanges, d.enabledAt slot = true →
      d.labelOf slot ≠ [] ∧ d.startOf slot < d.stopOf slot
      ∧ ((∀ earlier < slot, d.enabledAt earlier = true →
          ¬ (d.startOf earlier ≤ d.startOf slot ∧ d.startOf slot ≤ d.stopOf earlier)) →
        ∀ format, ((TableConfig.ofSubmission d).labels format).label (some (d.startOf slot))
          = d.labelOf slot) := by
  have hfine (slot : Nat) (hslot : slot < d.numRanges) (hticked : d.enabledAt slot = true) :
      d.labelOf slot ≠ [] ∧ d.startOf slot < d.stopOf slot :=
    d.slotErrors_eq_nil_iff.1 ((d.get?_validate_group_eq_none _ hslot).1 (h slot)) hticked
  constructor
  · rw [TableConfig.enabled_ranges_ofSubmission fun slot hslot ht => (hfine slot hslot ht).1]
    apply List.map_congr_left
    intro slot hslot
    rw [Submission.rangeAt, (List.mem_filter.1 hslot).2]
  · intro slot hslot hticked
    obtain ⟨hlabel, hlt⟩ := hfine slot hslot hticked
    have hle : d.startOf slot ≤ d.stopOf slot := by
      rw [Int64.lt_iff_toInt_lt] at hlt
      exact Int64.le_iff_toInt_le.2 (by omega)
    exact ⟨hlabel, hlt, fun hearlier => Submission.label_start hslot hticked hlabel hle hearlier⟩

/-- Slots 10 and 2 are ticked, slot 0 has a label and is not: the ranges of slots 2 and 10 are
enabled in this order, and at the start of slot 2 its label is shown. -/
theorem ticked_slots_take_effect_two :
    let d : Submission := (((Submission.empty.set FieldName.numRanges "11".toList).enterRange 10
      ⟨50, 99, "late".toList, true⟩).enterRange 0 ⟨9, 0, "never".toList, false⟩).enterRange 2
      ⟨0, 60, "early".toList, true⟩
    (∀ slot, (Element.validate d none).get? (FieldName.ofSlot FieldName.group slot) = none)
      ∧ (TableConfig.ofSubmission d).ranges.filter DateRange.enabled
        = [⟨0, 60, "early".toList, true⟩, ⟨50, 99, "late".toList, true⟩]
      ∧ ∀ format, ((TableConfig.ofSubmission d).labels format).label (some 0)
        = "early".toList := by
  intro d
  have hvalid : Element.validate d none = .empty := by decide +kernel
  have hnone (slot : Nat) :
      (Element.validate d none).get? (FieldName.ofSlot FieldName.group slot) = none := by
    rw [hvalid]
    rfl
  obtain ⟨hranges, heffect⟩ := ticked_slots_take_effect d none hnone
  have hslots : ((List.range d.numRanges).filter d.enabledAt).map
      (fun slot => (⟨d.startOf slot, d.stopOf slot, d.labelOf slot, true⟩ : DateRange))
        = [⟨0, 60, "early".toList, true⟩, ⟨50, 99, "late".toList, true⟩] := by decide +kernel
  have htwo : d.startOf 2 = 0 ∧ d.labelOf 2 = "early".toList := by decide +kernel
  have hbefore : ∀ earlier < 2, d.enabledAt earlier = false := by decide +kernel
  obtain ⟨-, -, hshown⟩ := heffect 2 (by decide +kernel) (by decide +kernel)
  rw [htwo.1, htwo.2] at hshown
  refine ⟨hnone, hranges.trans hslots, hshown fun earlier he ht => ?_⟩
  rw [hbefore earlier he] at ht
  exact absurd ht Bool.false_ne_true

end ProgressTable
