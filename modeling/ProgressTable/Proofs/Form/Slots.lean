import Mathlib.Tactic
import ProgressTable.Form.Authoring
import ProgressTable.Proofs.Text.Dict
import ProgressTable.Proofs.Text.Numeral

/-!
# The slots of a form

The fields of a form stand in the order of their names, in which slot 10 comes before slot 2, and
only slots with a field are looked at. Neither shows in the result: `ranges_ofSubmission` says that
the ranges of a form are those of the slots 0, 1, 2 and so on that have a label.

A slot in which anything stands has a field for it, so it is among `Submission.slots`; the slots
rise, and lists that rise are equal if they have the same members.
-/

namespace ProgressTable

/-! ## Names of fields -/

namespace FieldName

/-- Four letters tell the names of a slot's fields apart. -/
theorem eq_of_take_slotNames :
    ∀ b ∈ slotNames, ∀ b' ∈ slotNames, b.take 4 = b'.take 4 → b = b' := by decide +kernel

theorem four_le_length_slotNames : ∀ b ∈ slotNames, 4 ≤ b.length := by decide +kernel

theorem eq_of_slotNames_append {b b' : Text} (hb : b ∈ slotNames) (hb' : b' ∈ slotNames)
    {t t' : Text} (h : b ++ t = b' ++ t') : b = b' ∧ t = t' := by
  have htake := congrArg (List.take 4) h
  rw [List.take_append_of_le_length (four_le_length_slotNames b hb),
    List.take_append_of_le_length (four_le_length_slotNames b' hb')] at htake
  have hbase := eq_of_take_slotNames b hb b' hb' htake
  subst hbase
  exact ⟨rfl, List.append_cancel_left h⟩

theorem ofSlot_inj {b b' : Text} (hb : b ∈ slotNames) (hb' : b' ∈ slotNames) {i j : Nat}
    (h : ofSlot b i = ofSlot b' j) : b = b' ∧ i = j := by
  obtain ⟨hbase, hnumeral⟩ := eq_of_slotNames_append hb hb' h
  exact ⟨hbase, Numeral.ofNat_injective hnumeral⟩

/-- Behind the name of a slot's field only the number is left to be read. -/
theorem slot?_append {b : Text} (hb : b ∈ slotNames) (t : Text) :
    slot? (b ++ t) = Numeral.readCount? t := by
  have hread (b' : Text) (hb' : b' ∈ slotNames) (i : Nat) :
      (b'.isPrefixOf? (b ++ t)).bind Numeral.readCount? = some i
        ↔ b' = b ∧ Numeral.readCount? t = some i := by
    rw [Option.bind_eq_some_iff]
    constructor
    · rintro ⟨rest, hstart, hi⟩
      have happend := List.isPrefixOf?_eq_some_iff_append_eq.1 hstart
      obtain ⟨hbase, rfl⟩ := eq_of_slotNames_append hb' hb happend
      exact ⟨hbase, hi⟩
    · rintro ⟨rfl, hi⟩
      exact ⟨t, List.isPrefixOf?_eq_some_iff_append_eq.2 rfl, hi⟩
  ext i
  constructor
  · intro h
    obtain ⟨b', hb', hi⟩ := List.exists_of_findSome?_eq_some h
    exact ((hread b' hb' i).1 hi).2
  · intro hi
    -- no other name is a prefix of this one, so none is found before
    obtain ⟨before, after, hsplit, hnew⟩ := List.eq_append_cons_of_mem hb
    refine List.findSome?_eq_some_iff.2
      ⟨before, b, after, hsplit, (hread b hb i).2 ⟨rfl, hi⟩, fun b' hb' => ?_⟩
    have hmem : b' ∈ slotNames := by
      rw [hsplit]
      exact List.mem_append_left _ hb'
    refine Option.eq_none_iff_forall_ne_some.2 fun j hj => ?_
    exact hnew (((hread b' hmem j).1 hj).1 ▸ hb')

/-- The name of a slot's field is read back. -/
theorem slot?_ofSlot {b : Text} (hb : b ∈ slotNames) {i : Nat} (hi : i < Word.bound64) :
    slot? (ofSlot b i) = some i := by
  rw [ofSlot, slot?_append hb, Numeral.readCount?_ofNat hi]

end FieldName

/-! ## The list of slots -/

namespace Submission

theorem mem_insertSlot {n m : Nat} {ms : List Nat} : m ∈ insertSlot n ms ↔ m = n ∨ m ∈ ms := by
  induction ms with
  | nil => simp [insertSlot]
  | cons k ks ih =>
    unfold insertSlot
    split
    · exact List.mem_cons
    · split
      · next h => subst h; simp
      · simp only [List.mem_cons, ih]
        tauto

theorem pairwise_insertSlot {n : Nat} {ms : List Nat} (h : ms.Pairwise (· < ·)) :
    (insertSlot n ms).Pairwise (· < ·) := by
  induction ms with
  | nil => simp [insertSlot]
  | cons k ks ih =>
    rw [List.pairwise_cons] at h
    unfold insertSlot
    split
    · next hlt =>
      refine List.pairwise_cons.2 ⟨fun x hx => ?_, List.pairwise_cons.2 h⟩
      rcases List.mem_cons.1 hx with rfl | hx
      · exact hlt
      · exact Nat.lt_trans hlt (h.1 x hx)
    · split
      · exact List.pairwise_cons.2 h
      · refine List.pairwise_cons.2 ⟨fun x hx => ?_, ih h.2⟩
        rcases mem_insertSlot.1 hx with rfl | hx
        · omega
        · exact h.1 x hx

variable {d : Submission}

theorem pairwise_slots : d.slots.Pairwise (· < ·) := by
  rw [slots]
  -- whatever the fields are: the order comes from the insertion alone
  induction (d.values.keys.filterMap FieldName.slot?).filter (· < d.numRanges) with
  | nil => exact List.Pairwise.nil
  | cons n ns ih => exact pairwise_insertSlot ih

/-- The slots are the numbers below the number of slots that some field belongs to. -/
theorem mem_slots {i : Nat} :
    i ∈ d.slots ↔ (∃ k ∈ d.values.keys, FieldName.slot? k = some i) ∧ i < d.numRanges := by
  have hfold : ∀ ns : List Nat, i ∈ ns.foldr insertSlot [] ↔ i ∈ ns := by
    intro ns
    induction ns with
    | nil => exact Iff.rfl
    | cons n ns ih => rw [List.foldr_cons, mem_insertSlot, ih, List.mem_cons]
  rw [slots, hfold, List.mem_filter, List.mem_filterMap, decide_eq_true_iff]

theorem numRanges_lt (d : Submission) : d.numRanges < Word.bound63 := by
  unfold numRanges
  split
  · next n _ =>
    have hn := n.toInt_lt
    simp only [Word.bound63]
    omega
  · decide

/-- The number of a slot fits its word. -/
theorem lt_bound64_of_lt_numRanges {i : Nat} (hi : i < d.numRanges) : i < Word.bound64 :=
  Word.lt_bound64 (Nat.lt_trans hi d.numRanges_lt)

/-! ## What a slot holds -/

/-- What a slot holds is told by its four fields. -/
theorem rangeAt_congr {d' : Submission} {i : Nat}
    (h : ∀ b ∈ FieldName.slotNames,
      d.get? (FieldName.ofSlot b i) = d'.get? (FieldName.ofSlot b i)) :
    d.rangeAt i = d'.rangeAt i := by
  simp only [FieldName.slotNames, List.forall_mem_cons] at h
  rw [rangeAt, rangeAt, startOf, startOf, stopOf, stopOf, labelOf, labelOf, enabledAt, enabledAt,
    int?, int?, int?, int?, text, text, isChecked, isChecked, h.1, h.2.1, h.2.2.1, h.2.2.2.1]

/-- A slot without fields is empty. -/
theorem rangeAt_of_none {i : Nat}
    (h : ∀ b ∈ FieldName.slotNames, d.get? (FieldName.ofSlot b i) = none) :
    d.rangeAt i = ⟨0, 0, [], false⟩ := by
  have hempty : d.rangeAt i = Submission.empty.rangeAt i := rangeAt_congr h
  rw [hempty]
  rfl

/-- A slot that is not among the slots is empty. -/
theorem rangeAt_of_not_mem_slots {i : Nat} (hi : i < d.numRanges) (h : i ∉ d.slots) :
    d.rangeAt i = ⟨0, 0, [], false⟩ := by
  apply rangeAt_of_none
  intro b hb
  by_contra hsome
  obtain ⟨v, hget⟩ := Option.ne_none_iff_exists'.1 hsome
  have hname := FieldName.slot?_ofSlot hb (lt_bound64_of_lt_numRanges hi)
  exact h (mem_slots.2 ⟨⟨_, Dict.mem_keys_of_get? hget, hname⟩, hi⟩)

/-- Those of the first numbers whose slots hold something are all among the slots. -/
theorem filter_slots {p : Nat → Bool}
    (h : ∀ i, p i = true → d.rangeAt i ≠ ⟨0, 0, [], false⟩) :
    d.slots.filter p = (List.range d.numRanges).filter p := by
  apply (pairwise_slots.filter _).eq_of_mem_iff (List.pairwise_lt_range.filter _)
  intro i
  rw [List.mem_filter, List.mem_filter, List.mem_range]
  constructor
  · rintro ⟨hi, hp⟩
    exact ⟨(mem_slots.1 hi).2, hp⟩
  · rintro ⟨hi, hp⟩
    exact ⟨by_contra fun hnot => h i hp (rangeAt_of_not_mem_slots hi hnot), hp⟩

end Submission

/-! ## The ranges of a form -/

/-- The ranges of a form are those of its slots that have a label, by rising numbers. -/
theorem TableConfig.ranges_ofSubmission (d : Submission) :
    (ofSubmission d).ranges
      = ((List.range d.numRanges).map d.rangeAt).filter fun r => r.label ≠ [] := by
  -- slots are dropped before their ranges are taken, not afterwards
  have hslots : (ofSubmission d).ranges
      = (d.slots.filter fun i => d.labelOf i ≠ []).map d.rangeAt := by
    rw [← List.filterMap_eq_map, List.filterMap_filter]
    apply List.filterMap_congr
    intro i _
    by_cases h : d.labelOf i = [] <;> simp [h]
  have hlabelled (i : Nat) (hi : decide (d.labelOf i ≠ []) = true) :
      d.rangeAt i ≠ ⟨0, 0, [], false⟩ := fun hempty =>
    of_decide_eq_true hi (congrArg DateRange.label hempty)
  rw [hslots, Submission.filter_slots hlabelled, List.filter_map]
  rfl

/-- A form has fewer ranges than 2^63. -/
theorem TableConfig.length_ranges_ofSubmission_lt (d : Submission) :
    (ofSubmission d).ranges.length < Word.bound63 := by
  rw [ranges_ofSubmission]
  refine Nat.lt_of_le_of_lt (List.length_filter_le _ _) ?_
  rw [List.length_map, List.length_range]
  exact d.numRanges_lt

end ProgressTable
