import Mathlib.Tactic
import ProgressTable.Proofs.Element.Config
import ProgressTable.Proofs.Form.Prefill
import ProgressTable.Proofs.Form.Printed

/-!
# Editing without a change

An author opens the form of a stored element and submits what it is filled in with. The result is
the stored configuration again, less the ranges without a label (`editing_drops_unlabelled`), and
what a form saved comes back unchanged.

The defaults travel as JSON. A host may write them as it likes, so the cycle is stated for every
text that denotes the printed defaults.
-/

namespace ProgressTable.Command

open Json

/-! ## The two commands -/

theorem form_of_decode {stored : Text} {c : TableConfig}
    (h : (TableConfig.decode stored).value = .ok c) (settings : Settings) :
    (form (some stored) settings).run.value
      = .ok ((formValue settings (some c)).pretty 0) := by
  cases hd : TableConfig.decode stored with
  | mk v j =>
    -- a wrong number of ranges is noted in the journal and changes nothing else
    rw [hd] at h
    subst h
    simp only [form, loadElement, hd]
    rfl

/-- A page is absent, or its text can be read. -/
def PageLoads (page : Option Text) : Prop := ∀ t ∈ page, ∃ p, Page.ofJson t = .ok p

theorem save_of_ofJson {written : Text} {d : Submission} (h : Submission.ofJson written = .ok d)
    {page : Option Text} (hpage : PageLoads page) :
    ∃ p, (save written page).run.value
      = .ok ((Element.savedValue (Element.saved d p)).pretty 0) := by
  cases page with
  | none =>
    refine ⟨none, ?_⟩
    simp only [save, loadForm, h]
    rfl
  | some t =>
    obtain ⟨p, hp⟩ := hpage t rfl
    refine ⟨some p, ?_⟩
    simp only [save, loadForm, loadPage, h, hp]
    rfl

/-- The data text in what a form saves. -/
theorem member?_data (s : SavedElement) :
    member? "data".toList ((Element.savedValue s).pretty 0) = some (.text s.data) := by
  have h := Value.member?_pretty (Element.plain_savedValue s) (Element.ordered_savedValue s 126) 0
    "data".toList
  rw [Element.savedValue, h, List.lookup_cons_self]

/-- The defaults in what the form of a configuration prints. -/
theorem member?_defaults (settings : Settings) (c : TableConfig) :
    member? "defaults".toList ((formValue settings (some c)).pretty 0)
      = some (c.toSubmission
        (Submission.empty.set FieldName.numRanges (Numeral.ofNat settings.maxRanges))).toValue := by
  have h := Value.member?_pretty (plain_formValue settings (some c))
    (ordered_formValue settings (some c) 122) 0 "defaults".toList
  rw [formValue, h]
  exact List.lookup_cons_self

/-! ## The cycle -/

/-- The form of `stored` prints defaults, which can be written as JSON in both ways; and whichever
text for them is submitted, what is saved holds `data`. -/
def Returns (settings : Settings) (page : Option Text) (stored data : Text) : Prop :=
  ∃ printed defaults,
    (form (some stored) settings).run.value = .ok printed
    ∧ member? "defaults".toList printed = some defaults
    ∧ Denotes defaults.compact defaults ∧ (∀ level, Denotes (defaults.pretty level) defaults)
    ∧ ∀ written, Denotes written defaults →
      ∃ saved, (save written page).run.value = .ok saved
        ∧ member? "data".toList saved = some (.text data)

/-- A stored configuration comes back less its ranges without a label. -/
theorem returns_labelled (settings : Settings) {page : Option Text} (hpage : PageLoads page)
    {stored : Text} {c : TableConfig} (hstored : (TableConfig.decode stored).value = .ok c)
    (hlen : c.ranges.length < Word.bound63) :
    Returns settings page stored c.labelled.encode := by
  let submitted := Submission.empty.set FieldName.numRanges (Numeral.ofNat settings.maxRanges)
  have hplain := (c.toSubmission submitted).plain_toValue
  have hordered := (c.toSubmission submitted).ordered_toValue 126
  refine ⟨_, _, form_of_decode hstored settings, member?_defaults settings c,
    Value.denotes_compact hplain hordered, Value.denotes_pretty hplain hordered, ?_⟩
  intro written hwritten
  obtain ⟨p, hsave⟩ := save_of_ofJson (Submission.ofJson_of_denotes hwritten) hpage
  refine ⟨_, hsave, ?_⟩
  -- what was submitted is the form that was filled in, so only the slots are left to compare
  rw [member?_data, Element.saved, TableConfig.ofSubmission_toSubmission c submitted hlen]

/-- The ranges of a form all have labels. -/
theorem labelled_ofSubmission (d : Submission) :
    (TableConfig.ofSubmission d).labelled = TableConfig.ofSubmission d := by
  have hranges : (TableConfig.ofSubmission d).ranges.filter (fun r => r.label ≠ [])
      = (TableConfig.ofSubmission d).ranges := by
    rw [TableConfig.ranges_ofSubmission, List.filter_filter]
    simp only [Bool.and_self]
  rw [TableConfig.labelled, hranges]

/-- What a form saves comes back unchanged. -/
theorem returns_saved (settings : Settings) {page : Option Text} (hpage : PageLoads page)
    (d : Submission) :
    Returns settings page (TableConfig.ofSubmission d).encode
      (TableConfig.ofSubmission d).encode := by
  have hlen := TableConfig.length_ranges_ofSubmission_lt d
  have hstored : (TableConfig.decode (TableConfig.ofSubmission d).encode).value
      = .ok (TableConfig.ofSubmission d) := by
    rw [TableConfig.decode_encode (Word.lt_bound64 hlen)]
    rfl
  -- nothing is dropped the second time
  have h := returns_labelled settings hpage hstored hlen
  rwa [labelled_ofSubmission] at h

/-- Submitting the defaults of a stored configuration saves it again without the ranges that have no
label, whatever the settings and the page are. What any accepted form saves is a fixed point. -/
theorem editing_drops_unlabelled (settings : Settings) (page : Option Text)
    (hpage : PageLoads page) :
    (∀ stored c, (TableConfig.decode stored).value = .ok c → c.ranges.length < 2 ^ 63 →
      Returns settings page stored
        ({ c with ranges := c.ranges.filter fun r => r.label ≠ [] } : TableConfig).encode)
    ∧ ∀ written d firstPage, Submission.ofJson written = .ok d → PageLoads firstPage →
      ∃ saved data, (save written firstPage).run.value = .ok saved
        ∧ member? "data".toList saved = some (.text data)
        ∧ Returns settings page data data := by
  constructor
  · intro stored c hstored hlen
    exact returns_labelled settings hpage hstored hlen
  · intro written d firstPage hwritten hfirst
    obtain ⟨p, hsave⟩ := save_of_ofJson hwritten hfirst
    exact ⟨_, _, hsave, member?_data _, returns_saved settings hpage d⟩

/-- Two ranges, one of them without a label, in a form with a single slot; and what a form with the
second range alone saves. -/
theorem editing_drops_unlabelled_two :
    let settings := { Settings.default with maxRanges := 1 }
    let kept : TableConfig := ⟨"| Week 1 |".toList, [], [⟨3, 5, "on time".toList, false⟩]⟩
    let c : TableConfig := { kept with ranges := ⟨0, 9, [], true⟩ :: kept.ranges }
    let written := (kept.toSubmission .empty).toJson
    Returns settings none c.encode kept.encode
      ∧ ∃ saved data, (save written none).run.value = .ok saved
        ∧ member? "data".toList saved = some (.text data) ∧ Returns settings none data data := by
  intro settings kept c written
  have hpage : PageLoads none := by
    intro t ht
    exact absurd ht (by simp)
  have hstored : (TableConfig.decode c.encode).value = .ok c := by
    rw [TableConfig.decode_encode (by decide)]
    rfl
  have hwritten : Submission.ofJson written = .ok (kept.toSubmission .empty) :=
    Submission.ofJson_of_denotes (Value.denotes_compact (Submission.plain_toValue _)
      (Submission.ordered_toValue _ 126))
  have hcycle := editing_drops_unlabelled settings none hpage
  exact ⟨hcycle.1 c.encode c hstored (by decide), hcycle.2 written _ none hwritten hpage⟩

end ProgressTable.Command
