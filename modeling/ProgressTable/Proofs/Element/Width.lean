import Mathlib.Tactic
import ProgressTable.Element.Element
import ProgressTable.Proofs.Form.Errors

/-!
# The width that is saved

A form may ask for a width or leave it to the page, and a width of zero leaves it to the page too.
A width that a form asks for is checked, and what is left to the page is the greatest width there is
on it, so what is saved is accepted again when it is submitted (`saved_width_accepted`).

That fails on a page that is narrower than its margins. For the check such a page has no greatest
width, and a form that leaves the width to it is accepted; but the negative greatest width is saved,
and as a width to ask for it is refused.
-/

namespace ProgressTable

/-- A width that an element may have: it is not negative, and it is not greater than the greatest
width if there is one. -/
def WidthFits (maxWidth w : Int64) : Prop := 0 ≤ w ∧ (0 < maxWidth → w ≤ maxWidth)

namespace Submission

variable {d : Submission} {maxWidth : Int64}

/-- The width is fine just if it fits or is left to the page. -/
theorem widthError?_eq_none_iff :
    d.widthError? maxWidth = none
      ↔ ∀ w, d.int? FieldName.width = some w → WidthFits maxWidth w := by
  rw [widthError?]
  cases d.int? FieldName.width with
  | none => simp
  | some w =>
    simp only [Option.bind_some, Option.some.injEq, forall_eq', WidthFits, Int64.lt_iff_toInt_lt,
      Int64.le_iff_toInt_le]
    split_ifs with hneg hlarge
    · exact iff_of_false (by simp) fun h => absurd h.1 (by omega)
    · exact iff_of_false (by simp) fun h => absurd (h.2 hlarge.1) (by omega)
    · exact iff_of_true rfl ⟨by omega, fun hpos => by omega⟩

variable (d)

/-- The form with a width to ask for. -/
def askFor (w : Int64) : Submission := d.set FieldName.width (Numeral.ofInt64 w)

theorem int?_width_askFor (w : Int64) : (d.askFor w).int? FieldName.width = some w :=
  int?_of_get? (d.get?_set_self _ _)

/-- Asking for a width changes nothing in the slots. -/
theorem slotErrors_askFor (w : Int64) (slot : Nat) :
    (d.askFor w).slotErrors slot = d.slotErrors slot := by
  apply slotErrors_congr
  apply rangeAt_congr
  intro b hb
  exact d.get?_set_of_ne (FieldName.ne_ofSlot (by simp [FieldName.ownNames]) hb slot).symm _

theorem numRanges_askFor (w : Int64) : (d.askFor w).numRanges = d.numRanges := by
  apply numRanges_congr
  exact d.get?_set_of_ne (mt String.toList_inj.1 (by decide)) _

/-- A form without errors that asks for a width has no errors just if the width fits. -/
theorem isEmpty_validate_askFor (h : (d.validate maxWidth).isEmpty = true) (w : Int64) :
    ((d.askFor w).validate maxWidth).isEmpty = true ↔ WidthFits maxWidth w := by
  have hslots := ((d.isEmpty_validate_iff maxWidth).1 h).2
  rw [isEmpty_validate_iff, widthError?_eq_none_iff, int?_width_askFor, numRanges_askFor]
  simp only [Option.some.injEq, forall_eq', slotErrors_askFor]
  exact and_iff_left hslots

end Submission

namespace Element

variable {d : Submission} {page : Option Page}

/-- A width that is asked for is saved. -/
theorem widthOf_of_asked (h : (d.int? FieldName.width).getD 0 ≠ 0) :
    d.int? FieldName.width = some (widthOf d page) := by
  rw [widthOf, if_neg h]
  cases hint : d.int? FieldName.width with
  | none => exact absurd (congrArg (Option.getD · 0) hint) h
  | some w => rfl

/-- Else the greatest width is saved. -/
theorem widthOf_of_not_asked (h : (d.int? FieldName.width).getD 0 = 0) :
    widthOf d page = maxWidth page := if_pos h

/-- A form without errors saves a width that fits and is accepted again, but for a form that leaves
its width to a page that is narrower than its margins: there the negative greatest width is saved,
which is refused when it is submitted. -/
theorem saved_width_accepted (d : Submission) (page : Option Page)
    (h : (validate d page).isEmpty = true) :
    let asked := (d.int? FieldName.width).getD 0
    let width := (save d page).value.width
    (asked ≠ 0 ∨ 0 ≤ maxWidth page →
      0 ≤ width ∧ (0 < maxWidth page → width ≤ maxWidth page)
      ∧ (validate (d.askFor width) page).isEmpty = true)
    ∧ (asked = 0 → maxWidth page < 0 →
      width = maxWidth page
      ∧ (validate (d.askFor width) page).get? FieldName.width = some Wording.negativeWidth) := by
  intro asked width
  have hwidth : width = widthOf d page := rfl
  constructor
  · intro hpage
    have hfits : WidthFits (maxWidth page) width := by
      by_cases hasked : asked = 0
      · -- what is left to the page is its greatest width
        rw [hwidth, widthOf_of_not_asked hasked]
        refine ⟨hpage.resolve_left (not_not.2 hasked), fun _ => ?_⟩
        exact Int64.le_iff_toInt_le.2 (le_refl _)
      · have hfine := ((d.isEmpty_validate_iff (maxWidth page)).1 h).1
        exact Submission.widthError?_eq_none_iff.1 hfine _ (widthOf_of_asked hasked)
    exact ⟨hfits.1, hfits.2, (d.isEmpty_validate_askFor h width).2 hfits⟩
  · intro hasked hnarrow
    have hmax : width = maxWidth page := widthOf_of_not_asked hasked
    refine ⟨hmax, ?_⟩
    rw [validate, Submission.get?_validate_width, Submission.widthError?,
      Submission.int?_width_askFor, Option.bind_some, hmax, if_pos hnarrow]

/-- A page of 20 mm between margins of 15 mm: a form without a width is accepted, and what it saves
is refused. -/
theorem saved_width_accepted_narrow :
    let d := Submission.empty.set FieldName.content "| Week 1 |".toList
    let page : Option Page := some ⟨20, 15, 15⟩
    (validate d page).isEmpty = true ∧ (save d page).value.width = -20
      ∧ (validate (d.askFor (save d page).value.width) page).isEmpty = false := by
  intro d page
  have hvalid : (validate d page).isEmpty = true := by decide +kernel
  obtain ⟨hwidth, hrefused⟩ :=
    (saved_width_accepted d page hvalid).2 (by decide +kernel) (by decide)
  have hmax : maxWidth page = -20 := by decide
  refine ⟨hvalid, hwidth.trans hmax, ?_⟩
  by_contra hempty
  rw [Dict.get?, List.isEmpty_iff.1 (Bool.eq_true_of_not_eq_false hempty)] at hrefused
  exact absurd hrefused (by simp)

end Element
end ProgressTable
