import Mathlib.Tactic
import ProgressTable.Command.Basic
import ProgressTable.Proofs.DateRange
import ProgressTable.Proofs.Element.Config
import ProgressTable.Proofs.Form.Slots
import ProgressTable.Proofs.Markup.Token

/-!
# From a submitted form to a shown label

`Submission.ShowsLabel` says in terms of the fields of a form which label a time has: that of the
first slot that is enabled, has a label and holds the time, or else what stands for no slot. It
mentions neither the stored text nor the list of ranges, in which the slots without a label are left
out and the others are numbered anew. `shown_label_of_saved` says that this is the label that the
saved element shows, to whoever asks for it.
-/

namespace ProgressTable

/-! ## The label that a form describes -/

namespace Submission

/-- A slot that is enabled, has a label and holds the time. -/
structure Shows (d : Submission) (t : Timestamp) (slot : Nat) : Prop where
  lt : slot < d.numRanges
  enabled : d.enabledAt slot = true
  labelled : d.labelOf slot ≠ []
  start_le : d.startOf slot ≤ t
  le_stop : t ≤ d.stopOf slot

/-- The label of a time: that of the first slot that shows one, or else the fallback, or else a
blank for time zero and the date for any other time. -/
inductive ShowsLabel (d : Submission) (format : DateText) (t : Timestamp) : Text → Prop
  | slot {slot : Nat} (h : d.Shows t slot) (hfirst : ∀ earlier < slot, ¬ d.Shows t earlier) :
    ShowsLabel d format t (d.labelOf slot)
  | fallback (h : ∀ slot, ¬ d.Shows t slot) (hfallback : d.text FieldName.fallback ≠ []) :
    ShowsLabel d format t (d.text FieldName.fallback)
  | noDate (h : ∀ slot, ¬ d.Shows t slot) (hfallback : d.text FieldName.fallback = [])
    (ht : t = 0) : ShowsLabel d format t [' ']
  | date (h : ∀ slot, ¬ d.Shows t slot) (hfallback : d.text FieldName.fallback = [])
    (ht : t ≠ 0) : ShowsLabel d format t (format t)

/-- A form describes one label for each time. -/
theorem ShowsLabel.unique {d : Submission} {format : DateText} {t : Timestamp} {l l' : Text}
    (h : d.ShowsLabel format t l) (h' : d.ShowsLabel format t l') : l = l' := by
  cases h with
  | @slot i hi hfirst =>
    cases h' with
    | @slot j hj hfirst' =>
      rcases Nat.lt_trichotomy i j with hlt | heq | hgt
      · exact absurd hi (hfirst' i hlt)
      · rw [heq]
      · exact absurd hj (hfirst j hgt)
    | fallback hnone | noDate hnone | date hnone => exact absurd hi (hnone i)
  | fallback hnone hfallback =>
    cases h' with
    | @slot j hj => exact absurd hj (hnone j)
    | fallback => rfl
    | noDate _ hempty | date _ hempty => exact absurd hempty hfallback
  | noDate hnone hempty ht =>
    cases h' with
    | @slot j hj => exact absurd hj (hnone j)
    | fallback _ hfallback => exact absurd hempty hfallback
    | noDate => rfl
    | date _ _ hne => exact absurd ht hne
  | date hnone hempty hne =>
    cases h' with
    | @slot j hj => exact absurd hj (hnone j)
    | fallback _ hfallback => exact absurd hempty hfallback
    | noDate _ _ ht => exact absurd ht hne
    | date => rfl

variable (d : Submission) (t : Timestamp)

/-- Whether a slot shows its label, computed from the slot's range. -/
def showsAt (slot : Nat) : Bool :=
  (d.rangeAt slot).label ≠ [] ∧ ((d.rangeAt slot).enabled && (d.rangeAt slot).contains t)

theorem shows_iff {slot : Nat} : d.Shows t slot ↔ slot < d.numRanges ∧ d.showsAt t slot = true := by
  have hcontains : (d.rangeAt slot).contains t = true ↔ d.startOf slot ≤ t ∧ t ≤ d.stopOf slot :=
    DateRange.contains_iff
  rw [showsAt, decide_eq_true_iff, Bool.and_eq_true, hcontains]
  constructor
  · rintro ⟨hlt, henabled, hlabel, hstart, hstop⟩
    exact ⟨hlt, hlabel, henabled, hstart, hstop⟩
  · rintro ⟨hlt, hlabel, henabled, hstart, hstop⟩
    exact ⟨hlt, henabled, hlabel, hstart, hstop⟩

/-- The range that decides is that of the first slot that shows its label. -/
theorem find?_ranges : DateLabels.find? (TableConfig.ofSubmission d).ranges t
    = ((List.range d.numRanges).find? (d.showsAt t)).map d.rangeAt := by
  rw [DateLabels.find?, TableConfig.ranges_ofSubmission, List.find?_filter, List.find?_map]
  congr 2
  funext slot
  simp only [Function.comp_apply, showsAt, decide_eq_true_iff]

/-- The label of a time in the ranges of a form is the one that the form describes. -/
theorem showsLabel_labels (format : DateText) :
    d.ShowsLabel format t (((TableConfig.ofSubmission d).labels format).label (some t)) := by
  have hranges : ((TableConfig.ofSubmission d).labels format).ranges
      = (TableConfig.ofSubmission d).ranges := rfl
  rw [DateLabels.label, DateLabels.labelAt, hranges, find?_ranges]
  cases hfind : (List.range d.numRanges).find? (d.showsAt t) with
  | some slot =>
    rw [List.find?_range_eq_some, List.mem_range] at hfind
    obtain ⟨hshows, hlt, hfirst⟩ := hfind
    -- the range that was found has a label, so nothing falls through to the fallback
    have hslot := (d.shows_iff t).2 ⟨hlt, hshows⟩
    have hearlier : ∀ earlier < slot, ¬ d.Shows t earlier := by
      intro earlier he hs
      have hnot := hfirst earlier he
      rw [((d.shows_iff t).1 hs).2] at hnot
      exact absurd hnot (by decide)
    have hne : (d.rangeAt slot).label ≠ [] := hslot.labelled
    simp only [Option.map_some, if_neg hne]
    exact .slot hslot hearlier
  | none =>
    have hnone : ∀ slot, ¬ d.Shows t slot := by
      intro slot hs
      obtain ⟨hlt, hshows⟩ := (d.shows_iff t).1 hs
      rw [List.find?_range_eq_none] at hfind
      have hnot := hfind slot hlt
      rw [hshows] at hnot
      exact absurd hnot (by decide)
    have hunlabelled : ((TableConfig.ofSubmission d).labels format).unlabelled t
        = if d.text FieldName.fallback ≠ [] then d.text FieldName.fallback
          else if t = 0 then [' '] else format t := rfl
    simp only [Option.map_none, hunlabelled]
    by_cases hfallback : d.text FieldName.fallback = []
    · rw [if_neg (not_not.2 hfallback)]
      by_cases ht : t = 0
      · rw [if_pos ht]
        exact .noDate hnone hfallback ht
      · rw [if_neg ht]
        exact .date hnone hfallback ht
    · rw [if_pos hfallback]
      exact .fallback hnone hfallback

end Submission

/-! ## Who asks for the label -/

/-- Outside a preview, the token of an activity that exists and is completed says the label of the
completion. -/
theorem Token.value_resolve_completed {ctx : RenderContext} (dates : DateLabels)
    {id : ActivityId} {t : Timestamp} (hpreview : ctx.preview = false)
    (hactivity : ctx.backend.activityExists id = .ok true)
    (hcompletion : ctx.backend.completion id ctx.user = .ok (some ⟨t⟩)) :
    (Token.resolve ctx dates id).value = .label (dates.label (some t)) := by
  rw [Token.value_resolve, if_pos hactivity, Token.shownLabel, hpreview, if_neg Bool.false_ne_true,
    Token.userLabel, hcompletion]

/-- A saved element is loaded as the configuration of its form. -/
theorem Element.decode_save (d : Submission) (page : Option Page) :
    TableConfig.decode (Element.save d page).value.data
      = pure (.ok (TableConfig.ofSubmission d)) := by
  apply TableConfig.decode_encode
  exact Word.lt_bound64 (TableConfig.length_ranges_ofSubmission_lt d)

theorem Command.value_resolveDate {element : Text} {c : TableConfig}
    (h : TableConfig.decode element = pure (.ok c)) (time : Option Timestamp)
    (settings : Settings) :
    (Command.resolveDate element time settings).run.value
      = .ok ((c.labels settings.createDateFormat.value.format).label time) := by
  simp only [Command.resolveDate, Command.loadElement, h]
  rfl

/-- What a form saves shows the label that the form describes: a lookup of a date shows it, and so
does the token of an activity that was completed at the time, wherever it stands in a line. -/
theorem shown_label_of_saved (d : Submission) (page : Option Page) (t : Timestamp) :
    let data := (Element.save d page).value.data
    ∃ c : TableConfig, (TableConfig.decode data).value = .ok c
      ∧ (∀ format, d.ShowsLabel format t ((c.labels format).label (some t)))
      ∧ (∀ settings, (Command.resolveDate data (some t) settings).run.value
        = .ok ((c.labels settings.createDateFormat.value.format).label (some t)))
      ∧ ∀ (format : DateText) (ctx : RenderContext) (id : ActivityId),
        ctx.preview = false → ctx.backend.activityExists id = .ok true →
        ctx.backend.completion id ctx.user = .ok (some ⟨t⟩) →
        let dates := c.labels format
        (Token.resolve ctx dates id).value = .label (dates.label (some t))
        ∧ Token.replacement ctx dates (.found id) = dates.label (some t)
        ∧ ∀ line, (Token.substituteLine ctx dates line).value.texts = line.texts.map fun text =>
          (Token.pattern.pieces text).flatMap (Token.replacement ctx dates) := by
  intro data
  have hdecode : TableConfig.decode data = pure (.ok (TableConfig.ofSubmission d)) :=
    Element.decode_save d page
  refine ⟨TableConfig.ofSubmission d, ?_, d.showsLabel_labels t,
    Command.value_resolveDate hdecode (some t), ?_⟩
  · rw [hdecode]
    rfl
  · intro format ctx id hpreview hactivity hcompletion dates
    have hresolve := Token.value_resolve_completed dates hpreview hactivity hcompletion
    refine ⟨hresolve, ?_, fun line => ?_⟩
    · rw [Token.replacement_found, hresolve]
      rfl
    · rw [Token.texts_substituteLine]
      exact List.map_congr_left fun text _ => Token.value_substitute ctx dates text

/-- Slot 10 is not tried before slot 2, and slot 0 has no label: at time 50 the label is that of
slot 2. -/
theorem shown_label_of_saved_two :
    let d : Submission := (((Submission.empty.set FieldName.numRanges "11".toList).enterRange 0
      ⟨0, 99, [], true⟩).enterRange 10 ⟨0, 99, "late".toList, true⟩).enterRange 2
      ⟨0, 99, "early".toList, true⟩
    let ctx : RenderContext := ⟨7, 1, false,
      ((Store.empty.addActivity ['4']).addCompletion ['4'] 7 50).backend⟩
    ∃ c : TableConfig, (TableConfig.decode (Element.save d none).value.data).value = .ok c
      ∧ (Token.resolve ctx (c.labels fun _ => []) ['4']).value = .label "early".toList := by
  intro d ctx
  obtain ⟨c, hdecode, hshows, -, htoken⟩ := shown_label_of_saved d none 50
  have hresolve := (htoken (fun _ => []) ctx ['4'] rfl (by decide) (by decide)).1
  have htwo : d.Shows 50 2 :=
    ⟨by decide +kernel, by decide +kernel, by decide +kernel, by decide +kernel, by decide +kernel⟩
  -- slot 0 holds the time but has no label, and slot 1 is empty
  have hbefore : ∀ slot < 2, d.labelOf slot = [] := by decide +kernel
  have hlabel := (hshows fun _ => []).unique
    (.slot htwo fun earlier he hs => hs.labelled (hbefore earlier he))
  have hearly : d.labelOf 2 = "early".toList := by decide +kernel
  exact ⟨c, hdecode, by rw [hresolve, hlabel, hearly]⟩

end ProgressTable
