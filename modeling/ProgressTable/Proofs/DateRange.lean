import Mathlib.Tactic
import ProgressTable.DateRange

/-!
# Which edits of the ranges can be seen

The first enabled range that holds a time decides its label, so the order of the ranges matters only
where two enabled ones meet, and a range matters only at times that no enabled range before it
holds. `SameLabels` compares two lists of ranges by all the labels they lead to, whatever is shown
where a range gives none; it comes down to the labels that the ranges themselves give
(`sameLabels_iff`). Main statements: `sameLabels_erase_iff` says when a range can be left out, and
`sameLabels_edits` which edits cannot be seen at any time.
-/

namespace ProgressTable

namespace DateRange

/-- Whether the range is enabled and holds the time. -/
def holds (r : DateRange) (t : Timestamp) : Bool := r.enabled && r.contains t

/-- No time lies in both ranges. -/
def Apart (r s : DateRange) : Prop := ∀ t, ¬ (r.contains t = true ∧ s.contains t = true)

/-- Each time in the range lies in an enabled one before it. -/
def HiddenBy (r : DateRange) (earlier : List DateRange) : Prop :=
  ∀ t, r.contains t = true → ∃ e ∈ earlier, e.enabled = true ∧ e.contains t = true

variable {r s : DateRange} {t : Timestamp}

theorem contains_iff : r.contains t = true ↔ r.start ≤ t ∧ t ≤ r.stop := by
  rw [contains, Bool.and_eq_true, decide_eq_true_iff, decide_eq_true_iff]

theorem holds_iff : r.holds t = true ↔ r.enabled = true ∧ r.contains t = true := by
  rw [holds, Bool.and_eq_true]

theorem Apart.symm (h : r.Apart s) : s.Apart r := fun t ht => h t ht.symm

/-- No time lies in a range that stops before it starts. -/
theorem not_contains_of_lt (h : r.stop < r.start) : ¬ r.contains t = true := by
  intro hcontains
  obtain ⟨hstart, hstop⟩ := contains_iff.1 hcontains
  exact Int64.not_le.2 h (Int64.le_trans hstart hstop)

end DateRange

namespace DateLabels

/-! ## The label that the ranges give -/

variable {rs rs' xs ys : List DateRange} {r s : DateRange} {t : Timestamp}

theorem find?_eq (rs : List DateRange) (t : Timestamp) : find? rs t = rs.find? (·.holds t) := rfl

/-- The label of the range that decides; empty where none does. -/
def given (rs : List DateRange) (t : Timestamp) : Text :=
  match find? rs t with
  | some r => r.label
  | none => []

theorem labelAt_eq (d : DateLabels) (t : Timestamp) :
    d.labelAt t = if given d.ranges t = [] then d.unlabelled t else given d.ranges t := by
  rw [labelAt, given]
  cases find? d.ranges t <;> rfl

/-- Two lists of ranges under which every time has the same label, whatever the fallback and the
way to write a date. -/
def SameLabels (rs rs' : List DateRange) : Prop :=
  ∀ (fallback : Text) (format : DateText) (t : Option Timestamp),
    (DateLabels.mk rs fallback format).label t = (DateLabels.mk rs' fallback format).label t

/-- What is shown where the ranges give no label does not matter. -/
theorem sameLabels_iff : SameLabels rs rs' ↔ ∀ t, given rs t = given rs' t := by
  constructor
  · intro h t
    have hlabel : ∀ fallback : Text, fallback ≠ [] →
        (if given rs t = [] then fallback else given rs t)
          = if given rs' t = [] then fallback else given rs' t := by
      intro fallback hne
      have hsame := h fallback (fun _ => []) (some t)
      simpa only [label, labelAt_eq, unlabelled, if_pos hne] using hsame
    -- two fallbacks tell an absent label from any other
    have hone := hlabel ['1'] (by decide)
    have htwo := hlabel ['2'] (by decide)
    by_cases hempty : given rs t = []
    · by_cases hempty' : given rs' t = []
      · rw [hempty, hempty']
      · rw [if_pos hempty, if_neg hempty'] at hone htwo
        exact absurd (hone.trans htwo.symm) (by decide)
    · by_cases hempty' : given rs' t = []
      · rw [if_neg hempty, if_pos hempty'] at hone htwo
        exact absurd (hone.symm.trans htwo) (by decide)
      · rwa [if_neg hempty, if_neg hempty'] at hone
  · intro h fallback format t
    cases t with
    | none => rfl
    | some t =>
      rw [label, label, labelAt_eq, labelAt_eq, h t]
      rfl

theorem sameLabels_of_find? (h : ∀ t, find? rs t = find? rs' t) : SameLabels rs rs' := by
  refine sameLabels_iff.2 fun t => ?_
  rw [given, given, h t]

/-! ## Leaving a range out -/

theorem find?_append (xs ys : List DateRange) (t : Timestamp) :
    find? (xs ++ ys) t = (find? xs t).or (find? ys t) := List.find?_append

theorem find?_cons_of_holds (h : r.holds t = true) : find? (r :: ys) t = some r :=
  List.find?_cons_of_pos h

theorem find?_cons_of_not_holds (h : ¬ r.holds t = true) : find? (r :: ys) t = find? ys t :=
  List.find?_cons_of_neg h

theorem find?_eq_none_iff : find? xs t = none ↔
    ∀ e ∈ xs, ¬ (e.enabled = true ∧ e.contains t = true) := by
  simp only [find?_eq, List.find?_eq_none, DateRange.holds_iff]

/-- A range can be left out just if, wherever it decides, the ranges behind it give its label. -/
theorem sameLabels_erase_iff : SameLabels (xs ++ r :: ys) (xs ++ ys)
    ↔ ∀ t, r.holds t = true → find? xs t = none → r.label = given ys t := by
  rw [sameLabels_iff]
  refine forall_congr' fun t => ?_
  simp only [given, find?_append]
  cases find? xs t with
  | some e => simp
  | none =>
    by_cases hr : r.holds t = true
    · simp [find?_cons_of_holds hr, hr]
    · simp [find?_cons_of_not_holds hr, hr]

theorem sameLabels_erase_of_not_holds (h : ∀ t, ¬ r.holds t = true) :
    SameLabels (xs ++ r :: ys) (xs ++ ys) :=
  sameLabels_erase_iff.2 fun t hr => absurd hr (h t)

theorem sameLabels_erase_of_hiddenBy (h : r.HiddenBy xs) :
    SameLabels (xs ++ r :: ys) (xs ++ ys) := by
  refine sameLabels_erase_iff.2 fun t hr hnone => ?_
  obtain ⟨e, he, hholds⟩ := h t (DateRange.holds_iff.1 hr).2
  exact absurd hholds (find?_eq_none_iff.1 hnone e he)

/-- A range with a label of its own is seen unless it is disabled or hidden. -/
theorem disabled_or_hiddenBy_of_sameLabels (hlabel : r.label ≠ [])
    (hown : ∀ e ∈ ys, e.label ≠ r.label) (h : SameLabels (xs ++ r :: ys) (xs ++ ys)) :
    r.enabled = false ∨ r.HiddenBy xs := by
  rw [or_iff_not_imp_left, Bool.not_eq_false]
  intro henabled t ht
  by_contra hnone
  push Not at hnone
  have hgiven : r.label = given ys t := by
    refine sameLabels_erase_iff.1 h t (DateRange.holds_iff.2 ⟨henabled, ht⟩) ?_
    exact find?_eq_none_iff.2 fun e he hholds => absurd hholds.2 (by simp [hnone e he hholds.1])
  rw [given] at hgiven
  cases hfind : find? ys t with
  | some e =>
    rw [hfind] at hgiven
    exact hown e (List.mem_of_find?_eq_some hfind) hgiven.symm
  | none =>
    rw [hfind] at hgiven
    exact hlabel hgiven

/-! ## Changing the order -/

/-- Of two ranges without a common time at most one decides. -/
theorem find?_swap (h : r.Apart s) (ys : List DateRange) (t : Timestamp) :
    find? (r :: s :: ys) t = find? (s :: r :: ys) t := by
  by_cases hr : r.holds t = true
  · have hs : ¬ s.holds t = true := fun hs =>
      h t ⟨(DateRange.holds_iff.1 hr).2, (DateRange.holds_iff.1 hs).2⟩
    rw [find?_cons_of_holds hr, find?_cons_of_not_holds hs, find?_cons_of_holds hr]
  · by_cases hs : s.holds t = true
    · rw [find?_cons_of_not_holds hr, find?_cons_of_holds hs, find?_cons_of_holds hs]
    · rw [find?_cons_of_not_holds hr, find?_cons_of_not_holds hs, find?_cons_of_not_holds hs,
        find?_cons_of_not_holds hr]

/-- Only the ranges that hold a time decide about it, and no two of them are apart, so there is
nothing to put into another order. -/
theorem find?_perm (hperm : rs.Perm rs') (h : (rs.filter (·.enabled)).Pairwise DateRange.Apart)
    (t : Timestamp) : find? rs t = find? rs' t := by
  have hpair : (rs.filter (·.holds t)).Pairwise DateRange.Apart := by
    have hholds : rs.filter (·.holds t) = (rs.filter (·.enabled)).filter (·.contains t) := by
      rw [List.filter_filter]
      exact List.filter_congr fun e _ => Bool.and_comm _ _
    rw [hholds]
    exact h.filter _
  have hfilter : (rs.filter (·.holds t)).Perm (rs'.filter (·.holds t)) := hperm.filter _
  have hsame : rs.filter (·.holds t) = rs'.filter (·.holds t) := by
    refine hfilter.eq_of_pairwise (fun e e' he he' hapart _ => ?_) hpair
      (hfilter.pairwise hpair DateRange.Apart.symm)
    have hcontains := (DateRange.holds_iff.1 (List.mem_filter.1 he).2).2
    have hcontains' := (DateRange.holds_iff.1 (List.mem_filter.1 he').2).2
    exact absurd ⟨hcontains, hcontains'⟩ (hapart t)
  rw [find?_eq, find?_eq, ← List.head?_filter, ← List.head?_filter, hsame]

/-! ## Edits that cannot be seen -/

/-- What can be left out or moved: a range that is disabled, hidden by enabled ones before it, or
that stops before it starts; two neighbours without a common time; and all ranges at once if no two
enabled ones have a common time. A range with a label that no later one has can be left out only if
it is disabled or hidden. -/
theorem sameLabels_edits (xs ys : List DateRange) (r s : DateRange) :
    (r.enabled = false → SameLabels (xs ++ r :: ys) (xs ++ ys))
    ∧ (r.HiddenBy xs → SameLabels (xs ++ r :: ys) (xs ++ ys))
    ∧ (r.Apart s → SameLabels (xs ++ r :: s :: ys) (xs ++ s :: r :: ys))
    ∧ (∀ rs rs', rs.Perm rs' → (rs.filter (·.enabled)).Pairwise DateRange.Apart →
      SameLabels rs rs')
    ∧ (r.stop < r.start → SameLabels (xs ++ r :: ys) (xs ++ ys))
    ∧ (r.label ≠ [] → (∀ e ∈ ys, e.label ≠ r.label) →
      SameLabels (xs ++ r :: ys) (xs ++ ys) → r.enabled = false ∨ r.HiddenBy xs) := by
  refine ⟨fun hdisabled => ?_, sameLabels_erase_of_hiddenBy, fun hapart => ?_,
    fun rs rs' hperm hpair => sameLabels_of_find? (find?_perm hperm hpair), fun hlt => ?_,
    disabled_or_hiddenBy_of_sameLabels⟩
  · exact sameLabels_erase_of_not_holds fun t hr => by simp [DateRange.holds, hdisabled] at hr
  · refine sameLabels_of_find? fun t => ?_
    rw [find?_append, find?_append, find?_swap hapart]
  · exact sameLabels_erase_of_not_holds fun t hr =>
      DateRange.not_contains_of_lt hlt (DateRange.holds_iff.1 hr).2

/-- A range without a label hides another one, and ranges that follow each other at one second can
change places. Without the range before it the other one is seen. -/
theorem sameLabels_edits_three :
    let early : DateRange := ⟨0, 10, [], true⟩
    let inner : DateRange := ⟨5, 10, "Inner".toList, true⟩
    let late : DateRange := ⟨11, 20, "Late".toList, true⟩
    SameLabels [early, inner, late] [early, late] ∧ SameLabels [early, late] [late, early]
    ∧ ¬ SameLabels [inner, late] [late] := by
  intro early inner late
  have hhidden : inner.HiddenBy [early] := by
    intro t ht
    obtain ⟨hstart, hstop⟩ := DateRange.contains_iff.1 ht
    have hzero : (0 : Timestamp) ≤ 5 := by decide
    exact ⟨early, List.mem_singleton_self _, rfl,
      DateRange.contains_iff.2 ⟨Int64.le_trans hzero hstart, hstop⟩⟩
  have hapart : early.Apart late := by
    rintro t ⟨hearly, hlate⟩
    have hle : (11 : Timestamp) ≤ 10 :=
      Int64.le_trans (DateRange.contains_iff.1 hlate).1 (DateRange.contains_iff.1 hearly).2
    exact absurd hle (by decide)
  refine ⟨(sameLabels_edits [early] [late] inner late).2.1 hhidden,
    (sameLabels_edits [] [] early late).2.2.1 hapart, fun hsame => ?_⟩
  rcases (sameLabels_edits [] [late] inner late).2.2.2.2.2 (by decide) (by decide) hsame
    with hdisabled | hnone
  · exact absurd hdisabled (by decide)
  · obtain ⟨e, he, -⟩ := hnone 5 (by decide)
    exact absurd he List.not_mem_nil

end DateLabels
end ProgressTable
