import Mathlib.Tactic
import ProgressTable.Form.Validation
import ProgressTable.Proofs.Form.Prefill

/-!
# Every slot in turn

A form may claim to have any number of slots, so only those are visited for which a field was
submitted, and they are found by reading the numbers in the names of the fields. Neither shows:
what is saved and what is found wrong is what going through all slots in turn gives, and names that
are only read as the names of a slot's fields change nothing (`visited_in_turn`).

A slot that is not visited is empty. A name such as `startdate+3` has slot 3 visited, but the fields
of slot 3 have other names, so the slot holds what it held before.
-/

namespace ProgressTable

/-! ## Stray names -/

namespace FieldName

/-- A name that begins as that of a slot's field, but behind which no count is written in its
canonical numeral. -/
def IsStray (name : Text) : Prop :=
  ∃ b ∈ slotNames, ∃ suffix, name = b ++ suffix
    ∧ ∀ slot < Word.bound64, suffix ≠ Numeral.ofNat slot

theorem not_isStray_ofSlot {b : Text} (hb : b ∈ slotNames) {slot : Nat}
    (hslot : slot < Word.bound64) : ¬ IsStray (ofSlot b slot) := by
  rintro ⟨b', hb', suffix, he, hsuffix⟩
  exact hsuffix slot hslot (eq_of_slotNames_append hb hb' he).2.symm

theorem not_isStray_of_ownNames {name : Text} (hname : name ∈ ownNames) : ¬ IsStray name := by
  rintro ⟨b, hb, suffix, rfl, -⟩
  apply head?_ne_of_ownNames _ hname b hb
  exact List.head?_append_of_ne_nil b (ne_nil_of_mem_slotNames hb)

end FieldName

namespace Submission

variable (d : Submission)

/-! ## Going through all slots -/

/-- The ranges of the slots with a label, from a loop over all slots. -/
def rangesInTurn : List DateRange :=
  (List.range d.numRanges).filterMap fun slot =>
    if d.labelOf slot = [] then none else some (d.rangeAt slot)

/-- What is wrong with the width, under its name. -/
def widthErrors (maxWidth : Int64) : FormErrors :=
  match d.widthError? maxWidth with
  | some m => Dict.empty.insert FieldName.width m
  | none => .empty

/-- What is wrong with a form, from a loop over all slots: of a ticked slot the label is checked
first and the dates are checked next. -/
def errorsInTurn (maxWidth : Int64) : FormErrors :=
  (List.range d.numRanges).foldl (fun errors slot =>
    if d.enabledAt slot then
      let group := FieldName.ofSlot FieldName.group slot
      let labelled := if d.labelOf slot = [] then errors.insert group Wording.invalidDateString
        else errors
      if d.stopOf slot ≤ d.startOf slot then labelled.insert group Wording.invalidDate
        else labelled
    else errors) (d.widthErrors maxWidth)

/-! ## The slots that are passed over -/

theorem ranges_eq_rangesInTurn : (TableConfig.ofSubmission d).ranges = d.rangesInTurn := by
  rw [TableConfig.ranges_ofSubmission, rangesInTurn, List.filter_map, ← List.filterMap_eq_map,
    List.filterMap_filter]
  apply List.filterMap_congr
  intro slot _
  by_cases h : d.labelOf slot = [] <;> simp [Function.comp_apply, rangeAt, h]

theorem noteSlot_of_not_enabled {slot : Nat} (h : d.enabledAt slot = false) (e : FormErrors) :
    d.noteSlot e slot = e := by
  rw [noteSlot, slotErrors, h]
  rfl

/-- Only ticked slots are noted. -/
theorem foldl_noteSlot_filter (slots : List Nat) (e : FormErrors) :
    slots.foldl d.noteSlot e = (slots.filter d.enabledAt).foldl d.noteSlot e := by
  induction slots generalizing e with
  | nil => rfl
  | cons slot slots ih =>
    cases h : d.enabledAt slot with
    | true => rw [List.filter_cons_of_pos h, List.foldl_cons, List.foldl_cons, ih]
    | false =>
      rw [List.filter_cons_of_neg (by rw [h]; exact Bool.false_ne_true), List.foldl_cons, ih,
        noteSlot_of_not_enabled d h]

/-- A form is checked slot after slot. -/
theorem validate_eq_foldl (maxWidth : Int64) :
    d.validate maxWidth = (List.range d.numRanges).foldl d.noteSlot (d.widthErrors maxWidth) := by
  have hticked (slot : Nat) (h : d.enabledAt slot = true) : d.rangeAt slot ≠ ⟨0, 0, [], false⟩ :=
    fun hempty => Bool.false_ne_true ((congrArg DateRange.enabled hempty).symm.trans h)
  rw [foldl_noteSlot_filter, ← filter_slots hticked, ← foldl_noteSlot_filter]
  rfl

/-- Noting a slot is one step of the loop. -/
theorem noteSlot_eq (e : FormErrors) (slot : Nat) :
    d.noteSlot e slot =
      if d.enabledAt slot then
        let group := FieldName.ofSlot FieldName.group slot
        let labelled := if d.labelOf slot = [] then e.insert group Wording.invalidDateString else e
        if d.stopOf slot ≤ d.startOf slot then labelled.insert group Wording.invalidDate
          else labelled
      else e := by
  rw [noteSlot, slotErrors]
  split_ifs <;> rfl

theorem validate_eq_errorsInTurn (maxWidth : Int64) :
    d.validate maxWidth = d.errorsInTurn maxWidth := by
  rw [validate_eq_foldl, errorsInTurn]
  congr 1
  funext e slot
  exact d.noteSlot_eq e slot

/-! ## What is read of a form -/

variable {d} {d' : Submission}

theorem numRanges_congr (h : d'.get? FieldName.numRanges = d.get? FieldName.numRanges) :
    d'.numRanges = d.numRanges := by
  rw [numRanges, numRanges, int?, int?, h]

/-- The ranges of a form are told by its slots. -/
theorem ranges_congr (hnum : d'.numRanges = d.numRanges)
    (hslots : ∀ slot < d.numRanges, d'.rangeAt slot = d.rangeAt slot) :
    (TableConfig.ofSubmission d').ranges = (TableConfig.ofSubmission d).ranges := by
  rw [TableConfig.ranges_ofSubmission, TableConfig.ranges_ofSubmission, hnum,
    List.map_congr_left fun slot h => hslots slot (List.mem_range.1 h)]

theorem slotErrors_congr {slot : Nat} (h : d'.rangeAt slot = d.rangeAt slot) :
    d'.slotErrors slot = d.slotErrors slot := by
  have hstart : d'.startOf slot = d.startOf slot := congrArg DateRange.start h
  have hstop : d'.stopOf slot = d.stopOf slot := congrArg DateRange.stop h
  have hlabel : d'.labelOf slot = d.labelOf slot := congrArg DateRange.label h
  have henabled : d'.enabledAt slot = d.enabledAt slot := congrArg DateRange.enabled h
  rw [slotErrors, slotErrors, hstart, hstop, hlabel, henabled]

/-- What is wrong with a form is told by its width and its slots. -/
theorem validate_congr {maxWidth : Int64}
    (hwidth : d'.get? FieldName.width = d.get? FieldName.width)
    (hnum : d'.numRanges = d.numRanges)
    (hslots : ∀ slot < d.numRanges, d'.rangeAt slot = d.rangeAt slot) :
    d'.validate maxWidth = d.validate maxWidth := by
  have hstart : d'.widthErrors maxWidth = d.widthErrors maxWidth := by
    rw [widthErrors, widthErrors, widthError?, widthError?, int?, int?, hwidth]
  rw [validate_eq_foldl, validate_eq_foldl, hnum, hstart]
  apply List.foldl_ext
  intro e slot hslot
  rw [noteSlot, noteSlot, slotErrors_congr (hslots slot (List.mem_range.1 hslot))]

/-- Forms that differ in stray names alone hold the same in their slots. -/
theorem rangeAt_of_stray (h : ∀ name, ¬ FieldName.IsStray name → d'.get? name = d.get? name)
    {slot : Nat} (hslot : slot < Word.bound64) : d'.rangeAt slot = d.rangeAt slot :=
  rangeAt_congr fun _ hb => h _ (FieldName.not_isStray_ofSlot hb hslot)

end Submission

/-! ## The result -/

/-- What is saved of a form and what is found wrong with it is what going through all slots in turn
gives; and neither changes when fields with stray names are added, removed or filled in anew. -/
theorem visited_in_turn (d : Submission) (maxWidth : Int64) :
    (TableConfig.ofSubmission d).ranges = d.rangesInTurn
    ∧ d.validate maxWidth = d.errorsInTurn maxWidth
    ∧ ∀ d' : Submission, (∀ name, ¬ FieldName.IsStray name → d'.get? name = d.get? name) →
      (TableConfig.ofSubmission d').ranges = (TableConfig.ofSubmission d).ranges
      ∧ d'.validate maxWidth = d.validate maxWidth := by
  refine ⟨d.ranges_eq_rangesInTurn, d.validate_eq_errorsInTurn maxWidth, fun d' h => ?_⟩
  have hown : ∀ name ∈ FieldName.ownNames, d'.get? name = d.get? name := fun name hname =>
    h name (FieldName.not_isStray_of_ownNames hname)
  have hnum : d'.numRanges = d.numRanges :=
    Submission.numRanges_congr (hown _ (by simp [FieldName.ownNames]))
  have hslots (slot : Nat) (hslot : slot < d.numRanges) : d'.rangeAt slot = d.rangeAt slot := by
    have hlt := d.numRanges_lt
    apply Submission.rangeAt_of_stray h
    simp only [Word.bound63, Word.bound64] at *
    omega
  exact ⟨Submission.ranges_congr hnum hslots,
    Submission.validate_congr (hown _ (by simp [FieldName.ownNames])) hnum hslots⟩

/-- Slot 3 is visited for the sake of a stray name, and slot 7 because of a numeral that is not
canonical; both are empty. -/
example :
    let d := ((Submission.empty.set FieldName.numRanges ['9']).set "startdate+3".toList ['5']).set
      "enabled007".toList ['1']
    d.slots = [3, 7] ∧ (TableConfig.ofSubmission d).ranges = [] ∧ d.validate 0 = .empty := by
  decide +kernel

end ProgressTable
