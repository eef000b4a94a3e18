import Mathlib.Tactic
import ProgressTable.Proofs.Form.EverySlot

/-!
# What is wrong with a form

Each error of a form stands under the field that it is about: that of the width under the width, and
those of a slot under the slot's group, where the later of two takes the place of the earlier one
(`get?_validate_group`). So a form has no errors just if its width is fine and every ticked slot has
a label and starts before it ends (`isEmpty_validate_iff`, `slotErrors_eq_nil_iff`). Printed, each
error is one line.
-/

namespace ProgressTable

theorem FieldName.width_ne_ofSlot_group (slot : Nat) : width ≠ ofSlot group slot :=
  ne_ofSlot_of_head?_ne group_ne_nil (by decide +kernel) slot

theorem FieldName.ofSlot_group_inj {i j : Nat} (h : ofSlot group i = ofSlot group j) : i = j :=
  Numeral.ofNat_injective (List.append_cancel_left h)

namespace Submission

variable (d : Submission) (maxWidth : Int64)

/-! ## Where an error stands -/

/-- The last message under a name stays. -/
theorem get?_foldl_insert (k x : Text) (ms : List Text) (e : FormErrors) :
    (ms.foldl (fun e m => e.insert k m) e).get? x
      = if x = k then ms.getLast?.or (e.get? x) else e.get? x := by
  induction ms using List.reverseRecOn with
  | nil => simp
  | append_singleton ms m ih =>
    rw [List.foldl_append, List.foldl_cons, List.foldl_nil, Dict.get?_insert, ih]
    split_ifs <;> simp

theorem get?_noteSlot (e : FormErrors) (slot : Nat) (x : Text) :
    (d.noteSlot e slot).get? x
      = if x = FieldName.ofSlot FieldName.group slot then (d.slotErrors slot).getLast?.or (e.get? x)
        else e.get? x :=
  get?_foldl_insert _ x (d.slotErrors slot) e

/-- The first slots leave their messages under their groups. -/
theorem get?_foldl_noteSlot_group (slot n : Nat) (e : FormErrors) :
    ((List.range n).foldl d.noteSlot e).get? (FieldName.ofSlot FieldName.group slot)
      = if slot < n then (d.slotErrors slot).getLast?.or
          (e.get? (FieldName.ofSlot FieldName.group slot))
        else e.get? (FieldName.ofSlot FieldName.group slot) := by
  induction n with
  | zero => rfl
  | succ n ih =>
    rw [List.range_succ, List.foldl_append, List.foldl_cons, List.foldl_nil, get?_noteSlot, ih]
    by_cases h : slot = n
    · subst h
      rw [if_pos rfl, if_neg (Nat.lt_irrefl slot), if_pos (Nat.lt_succ_self slot)]
    · -- the group of another slot has another name
      rw [if_neg fun he => h (FieldName.ofSlot_group_inj he)]
      exact if_congr (by omega) rfl rfl

theorem get?_foldl_noteSlot_width (slots : List Nat) (e : FormErrors) :
    (slots.foldl d.noteSlot e).get? FieldName.width = e.get? FieldName.width := by
  induction slots generalizing e with
  | nil => rfl
  | cons slot slots ih =>
    rw [List.foldl_cons, ih, get?_noteSlot, if_neg (FieldName.width_ne_ofSlot_group slot)]

theorem get?_widthErrors (x : Text) :
    (d.widthErrors maxWidth).get? x
      = if x = FieldName.width then d.widthError? maxWidth else none := by
  rw [widthErrors]
  cases d.widthError? maxWidth with
  | none => exact (ite_self none).symm
  | some m => exact Dict.get?_insert _ _ _ _

theorem get?_validate_width :
    (d.validate maxWidth).get? FieldName.width = d.widthError? maxWidth := by
  rw [validate_eq_foldl, get?_foldl_noteSlot_width, get?_widthErrors, if_pos rfl]

theorem get?_validate_group (slot : Nat) :
    (d.validate maxWidth).get? (FieldName.ofSlot FieldName.group slot)
      = if slot < d.numRanges then (d.slotErrors slot).getLast? else none := by
  rw [validate_eq_foldl, get?_foldl_noteSlot_group, get?_widthErrors,
    if_neg (FieldName.width_ne_ofSlot_group slot).symm, Option.or_none]

/-! ## Forms without errors -/

/-- A slot is fine if it is not ticked, or else has a label and starts before it ends. -/
theorem slotErrors_eq_nil_iff {slot : Nat} :
    d.slotErrors slot = []
      ↔ (d.enabledAt slot = true → d.labelOf slot ≠ [] ∧ d.startOf slot < d.stopOf slot) := by
  have hlt : d.startOf slot < d.stopOf slot ↔ ¬ d.stopOf slot ≤ d.startOf slot := by
    simp only [Int64.le_iff_toInt_le, Int64.lt_iff_toInt_lt, not_le]
  rw [slotErrors, hlt]
  split_ifs <;> simp_all

/-- No error stands under the group of a slot just if the slot is fine. -/
theorem get?_validate_group_eq_none {slot : Nat} (hslot : slot < d.numRanges) :
    (d.validate maxWidth).get? (FieldName.ofSlot FieldName.group slot) = none
      ↔ d.slotErrors slot = [] := by
  rw [get?_validate_group, if_pos hslot, List.getLast?_eq_none_iff]

/-- Slots that are fine leave the errors as they are. -/
theorem foldl_noteSlot_of_nil {slots : List Nat} (h : ∀ slot ∈ slots, d.slotErrors slot = [])
    (e : FormErrors) : slots.foldl d.noteSlot e = e := by
  induction slots with
  | nil => rfl
  | cons slot slots ih =>
    have hnote : d.noteSlot e slot = e := by
      rw [noteSlot, h slot List.mem_cons_self]
      rfl
    rw [List.foldl_cons, hnote, ih fun other hother => h other (List.mem_cons_of_mem _ hother)]

/-- A form has no errors just if nothing is wrong with its width and its slots. -/
theorem isEmpty_validate_iff :
    (d.validate maxWidth).isEmpty = true
      ↔ d.widthError? maxWidth = none ∧ ∀ slot < d.numRanges, d.slotErrors slot = [] := by
  constructor
  · intro h
    have hnone (x : Text) : (d.validate maxWidth).get? x = none := by
      rw [Dict.get?, List.isEmpty_iff.1 h]
      rfl
    exact ⟨(d.get?_validate_width maxWidth).symm.trans (hnone _),
      fun slot hslot => (d.get?_validate_group_eq_none maxWidth hslot).1 (hnone _)⟩
  · rintro ⟨hwidth, hslots⟩
    rw [validate_eq_foldl,
      foldl_noteSlot_of_nil d fun slot hslot => hslots slot (List.mem_range.1 hslot), widthErrors,
      hwidth]
    rfl

/-! ## Printed errors -/

end Submission
end ProgressTable
