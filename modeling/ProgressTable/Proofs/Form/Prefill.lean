import Mathlib.Tactic
import ProgressTable.Proofs.Form.Slots
import ProgressTable.Proofs.Text.Blank

/-!
# A form filled in from a configuration

The form of a configuration describes the configuration again, less the ranges without a label
(`ofSubmission_toSubmission`). Each range is entered into a slot of its own: entering one range is
read back from its slot and leaves all other slots alone, so by induction on the ranges every slot
holds its range, and the slots behind the last range stay empty.
-/

namespace ProgressTable

/-! ## Fields outside the slots -/

namespace FieldName

/-- The fields that belong to no slot. -/
def ownNames : List Text := [content, fallback, numRanges, width]

theorem head?_ne_of_ownNames :
    ∀ name ∈ ownNames, ∀ b ∈ slotNames, name.head? ≠ b.head? := by decide +kernel

/-- The name of a slot's field begins as its base does. -/
theorem head?_ofSlot {b : Text} (hb : b ≠ []) (i : Nat) : (ofSlot b i).head? = b.head? :=
  List.head?_append_of_ne_nil b hb

theorem ne_nil_of_mem_slotNames {b : Text} (hb : b ∈ slotNames) : b ≠ [] := by
  rintro rfl
  exact absurd (four_le_length_slotNames [] hb) (by decide)

theorem group_ne_nil : group ≠ [] := by decide +kernel

/-- A name that begins with another letter is none of a slot's. -/
theorem ne_ofSlot_of_head?_ne {name b : Text} (hb : b ≠ []) (hhead : name.head? ≠ b.head?)
    (i : Nat) : name ≠ ofSlot b i := by
  rintro rfl
  exact hhead (head?_ofSlot hb i)

theorem ne_ofSlot {name b : Text} (hname : name ∈ ownNames) (hb : b ∈ slotNames) (i : Nat) :
    name ≠ ofSlot b i :=
  ne_ofSlot_of_head?_ne (ne_nil_of_mem_slotNames hb) (head?_ne_of_ownNames name hname b hb) i

end FieldName

namespace Submission

variable (d : Submission)

theorem get?_set_self (name value : Text) : (d.set name value).get? name = some value :=
  Dict.get?_insert_self d.values name value

theorem get?_set_of_ne {name x : Text} (h : x ≠ name) (value : Text) :
    (d.set name value).get? x = d.get? x :=
  Dict.get?_insert_of_ne h d.values value

/-! ## Entering one range -/

/-- Only the four fields of the slot are set. -/
theorem get?_enterRange_of_ne {x : Text} {slot : Nat} (r : DateRange)
    (h : ∀ b ∈ FieldName.slotNames, x ≠ FieldName.ofSlot b slot) :
    (d.enterRange slot r).get? x = d.get? x := by
  simp only [FieldName.slotNames, List.forall_mem_cons] at h
  rw [enterRange, get?_set_of_ne _ h.2.2.2.1, get?_set_of_ne _ h.2.2.1, get?_set_of_ne _ h.2.1,
    get?_set_of_ne _ h.1]

theorem rangeAt_enterRange_of_ne {slot i : Nat} (h : i ≠ slot) (r : DateRange) :
    (d.enterRange slot r).rangeAt i = d.rangeAt i := by
  apply rangeAt_congr
  intro b hb
  apply get?_enterRange_of_ne
  intro b' hb' he
  exact h (FieldName.ofSlot_inj hb hb' he).2

/-- A number that was entered is read back. -/
theorem int?_of_get? {d : Submission} {name : Text} {n : Int64}
    (h : d.get? name = some (Numeral.ofInt64 n)) : d.int? name = some n := by
  rw [int?, h, Option.map_some, Numeral.ofInt64, Text.trim_ofInt, ← Numeral.ofInt64,
    Numeral.readInt64?_ofInt64]
  rfl

/-- The fields of a slot have different names. -/
theorem pairwise_slotNames (slot : Nat) :
    (FieldName.slotNames.map fun b => FieldName.ofSlot b slot).Pairwise (· ≠ ·) := by
  have hbases : FieldName.slotNames.Pairwise (· ≠ ·) := by decide +kernel
  rw [List.pairwise_map]
  exact hbases.imp_of_mem fun hb hb' hne he => hne (FieldName.ofSlot_inj hb hb' he).1

/-- A range that was entered is read back from its slot. -/
theorem rangeAt_enterRange (slot : Nat) (r : DateRange) :
    (d.enterRange slot r).rangeAt slot = r := by
  have hne := pairwise_slotNames slot
  simp only [FieldName.slotNames, List.map_cons, List.map_nil, List.pairwise_cons,
    List.forall_mem_cons] at hne
  obtain ⟨⟨hse, hsd, hsn, -⟩, ⟨hed, hen, -⟩, ⟨hdn, -⟩, -⟩ := hne
  -- each field is looked for behind the fields that were set after it
  have hstart : (d.enterRange slot r).startOf slot = r.start := by
    rw [startOf, int?_of_get? (n := r.start)]
    · rfl
    · rw [enterRange, get?_set_of_ne _ hsn, get?_set_of_ne _ hsd, get?_set_of_ne _ hse,
        get?_set_self]
  have hstop : (d.enterRange slot r).stopOf slot = r.stop := by
    rw [stopOf, int?_of_get? (n := r.stop)]
    · rfl
    · rw [enterRange, get?_set_of_ne _ hen, get?_set_of_ne _ hed, get?_set_self]
  have hlabel : (d.enterRange slot r).labelOf slot = r.label := by
    rw [labelOf, text, enterRange, get?_set_of_ne _ hdn, get?_set_self]
    rfl
  have henabled : (d.enterRange slot r).enabledAt slot = r.enabled := by
    rw [enabledAt, isChecked, enterRange, get?_set_self]
    cases r.enabled <;> rfl
  rw [rangeAt, hstart, hstop, hlabel, henabled]

/-! ## Entering all ranges -/

/-- Enters ranges into slots one after the other. -/
def enterRanges (d : Submission) (first : Nat) (rs : List DateRange) : Submission :=
  (rs.zipIdx first).foldl (fun d (r, slot) => d.enterRange slot r) d

theorem enterRanges_cons (first : Nat) (r : DateRange) (rs : List DateRange) :
    d.enterRanges first (r :: rs) = (d.enterRange first r).enterRanges (first + 1) rs := rfl

theorem get?_enterRanges_of_ne {x : Text} (first : Nat) (rs : List DateRange)
    (h : ∀ b ∈ FieldName.slotNames, ∀ slot, x ≠ FieldName.ofSlot b slot) :
    (d.enterRanges first rs).get? x = d.get? x := by
  induction rs generalizing d first with
  | nil => rfl
  | cons r rs ih =>
    rw [enterRanges_cons, ih, get?_enterRange_of_ne d r fun b hb => h b hb first]

/-- Slots outside those of the ranges are left alone. -/
theorem rangeAt_enterRanges_of_not {first i : Nat} (rs : List DateRange)
    (h : i < first ∨ first + rs.length ≤ i) :
    (d.enterRanges first rs).rangeAt i = d.rangeAt i := by
  induction rs generalizing d first with
  | nil => rfl
  | cons r rs ih =>
    rw [List.length_cons] at h
    rw [enterRanges_cons, ih _ (by omega), rangeAt_enterRange_of_ne d (by omega)]

/-- Each range is read back from its slot. -/
theorem rangeAt_enterRanges (first : Nat) (rs : List DateRange) {i : Nat} (hi : i < rs.length) :
    (d.enterRanges first rs).rangeAt (first + i) = rs[i] := by
  induction rs generalizing d first i with
  | nil => exact absurd hi (Nat.not_lt_zero i)
  | cons r rs ih =>
    rw [enterRanges_cons]
    cases i with
    | zero =>
      -- the ranges behind the first one go to higher slots
      have hbefore : first < first + 1 := Nat.lt_succ_self first
      show ((d.enterRange first r).enterRanges (first + 1) rs).rangeAt first = r
      rw [rangeAt_enterRanges_of_not _ _ (.inl hbefore), rangeAt_enterRange]
    | succ i =>
      have hslot : first + (i + 1) = first + 1 + i := by omega
      rw [hslot, ih]
      rfl

end Submission

/-! ## The form of a configuration -/

namespace TableConfig

variable (c : TableConfig) (submitted : Submission)

/-- The form before the ranges are entered. -/
def emptySlots : Submission :=
  ((Submission.empty.set FieldName.content c.content).set FieldName.fallback c.fallback).set
    FieldName.numRanges (Numeral.ofNat (max submitted.numRanges c.ranges.length))

theorem toSubmission_eq :
    c.toSubmission submitted = (c.emptySlots submitted).enterRanges 0 c.ranges := rfl

theorem get?_toSubmission_of_ownNames {name : Text} (h : name ∈ FieldName.ownNames) :
    (c.toSubmission submitted).get? name = (c.emptySlots submitted).get? name := by
  rw [toSubmission_eq, Submission.get?_enterRanges_of_ne]
  exact fun b hb slot => FieldName.ne_ofSlot h hb slot

theorem text_content_toSubmission :
    (c.toSubmission submitted).text FieldName.content = c.content := by
  have hnum : FieldName.content ≠ FieldName.numRanges := mt String.toList_inj.1 (by decide)
  have hfallback : FieldName.content ≠ FieldName.fallback := mt String.toList_inj.1 (by decide)
  rw [Submission.text, get?_toSubmission_of_ownNames c submitted (by simp [FieldName.ownNames]),
    emptySlots, Submission.get?_set_of_ne _ hnum, Submission.get?_set_of_ne _ hfallback,
    Submission.get?_set_self]
  rfl

theorem text_fallback_toSubmission :
    (c.toSubmission submitted).text FieldName.fallback = c.fallback := by
  have hnum : FieldName.fallback ≠ FieldName.numRanges := mt String.toList_inj.1 (by decide)
  rw [Submission.text, get?_toSubmission_of_ownNames c submitted (by simp [FieldName.ownNames]),
    emptySlots, Submission.get?_set_of_ne _ hnum, Submission.get?_set_self]
  rfl

/-- The form has as many slots as were submitted before, and never fewer than there are ranges. -/
theorem numRanges_toSubmission (h : c.ranges.length < Word.bound63) :
    (c.toSubmission submitted).numRanges = max submitted.numRanges c.ranges.length := by
  -- the number is printed as a count and read back as a signed word
  have hmax : max submitted.numRanges c.ranges.length < Word.bound63 :=
    max_lt submitted.numRanges_lt h
  have hget : (c.toSubmission submitted).get? FieldName.numRanges
      = some (Numeral.ofNat (max submitted.numRanges c.ranges.length)) := by
    rw [get?_toSubmission_of_ownNames c submitted (by simp [FieldName.ownNames]), emptySlots,
      Submission.get?_set_self]
  rw [Submission.numRanges, Submission.int?, hget, Option.map_some, Text.trim_ofNat,
    Numeral.readInt64?_ofNat hmax]
  have hint : (Int64.ofInt (max submitted.numRanges c.ranges.length : Nat)).toInt
      = (max submitted.numRanges c.ranges.length : Nat) := by
    simp only [Word.bound63] at hmax
    exact Int64.toInt_ofInt_of_le (by omega) (by omega)
  simp only [Option.getD_some, hint, Int.toNat_natCast]

/-- A slot that no range was entered into is empty. -/
theorem rangeAt_emptySlots (i : Nat) : (c.emptySlots submitted).rangeAt i = ⟨0, 0, [], false⟩ := by
  apply Submission.rangeAt_of_none
  intro b hb
  have hne : ∀ name ∈ FieldName.ownNames, FieldName.ofSlot b i ≠ name := fun name hname =>
    (FieldName.ne_ofSlot hname hb i).symm
  simp only [FieldName.ownNames, List.forall_mem_cons] at hne
  rw [emptySlots, Submission.get?_set_of_ne _ hne.2.2.1, Submission.get?_set_of_ne _ hne.2.1,
    Submission.get?_set_of_ne _ hne.1]
  rfl

/-- The slots hold the ranges, and the slots behind them are empty. -/
theorem map_rangeAt_toSubmission (k : Nat) :
    (List.range (c.ranges.length + k)).map (c.toSubmission submitted).rangeAt
      = c.ranges ++ List.replicate k ⟨0, 0, [], false⟩ := by
  have hheld : (List.range c.ranges.length).map (c.toSubmission submitted).rangeAt = c.ranges := by
    apply List.ext_getElem
    · rw [List.length_map, List.length_range]
    · intro i _ hi
      have hslot := Submission.rangeAt_enterRanges (c.emptySlots submitted) 0 c.ranges hi
      rw [Nat.zero_add] at hslot
      rw [List.getElem_map, List.getElem_range, toSubmission_eq, hslot]
  have hbehind : (List.range k).map (fun i => (c.toSubmission submitted).rangeAt
      (c.ranges.length + i)) = List.replicate k ⟨0, 0, [], false⟩ := by
    rw [List.eq_replicate_iff]
    refine ⟨by rw [List.length_map, List.length_range], fun r hr => ?_⟩
    obtain ⟨i, -, rfl⟩ := List.mem_map.1 hr
    rw [toSubmission_eq, Submission.rangeAt_enterRanges_of_not _ _ (.inr (by omega)),
      rangeAt_emptySlots]
  rw [List.range_add, List.map_append, hheld, List.map_map]
  exact congrArg _ hbehind

/-- The ranges of empty slots have no label. -/
theorem filter_replicate_empty (k : Nat) :
    (List.replicate k (⟨0, 0, [], false⟩ : DateRange)).filter (fun r => r.label ≠ []) = [] := by
  rw [List.filter_eq_nil_iff]
  intro r hr
  simp [List.eq_of_mem_replicate hr]

/-- The ranges of a configuration that have a label. -/
def labelled : TableConfig := { c with ranges := c.ranges.filter fun r => r.label ≠ [] }

/-- The form of a configuration describes the configuration less its ranges without a label. -/
theorem ofSubmission_toSubmission (h : c.ranges.length < Word.bound63) :
    ofSubmission (c.toSubmission submitted) = c.labelled := by
  have hranges : (ofSubmission (c.toSubmission submitted)).ranges
      = c.ranges.filter fun r => r.label ≠ [] := by
    -- a form with more slots than ranges has `k` empty ones, which have no label
    obtain ⟨k, hk⟩ := Nat.exists_eq_add_of_le
      (Nat.le_max_right submitted.numRanges c.ranges.length)
    rw [ranges_ofSubmission, numRanges_toSubmission c submitted h, hk, map_rangeAt_toSubmission,
      List.filter_append, filter_replicate_empty, List.append_nil]
  have hcontent := text_content_toSubmission c submitted
  have hfallback := text_fallback_toSubmission c submitted
  calc ofSubmission (c.toSubmission submitted)
      = ⟨(c.toSubmission submitted).text FieldName.content,
          (c.toSubmission submitted).text FieldName.fallback,
          (ofSubmission (c.toSubmission submitted)).ranges⟩ := rfl
    _ = c.labelled := by rw [hcontent, hfallback, hranges, labelled]

end TableConfig
end ProgressTable
