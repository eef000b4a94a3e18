import Mathlib.Tactic
import ProgressTable.Element.Config
import ProgressTable.Proofs.Journal
import ProgressTable.Proofs.Json.Record

/-!
# Stored configurations

What is stored for a configuration is read back as that configuration. The only bound comes from
the number of ranges, which is stored as a count.

An author's host may keep other texts than those that are written here: members may be missing,
unknown or in another order, and the number of ranges may be wrong. `restored` is what such a text
becomes when it is stored again, and it depends on what the text is read as and on nothing else.
-/

namespace ProgressTable.TableConfig

open Json

theorem plain_rangeValue (r : DateRange) : (rangeValue r).Plain := by
  apply Value.Plain.object
  simp only [List.forall_mem_cons, List.not_mem_nil, false_imp_iff, implies_true, and_true]
  exact ⟨Value.plain_int64 _, Value.plain_int64 _, .text _, .bool _⟩

theorem plain_toValue {c : TableConfig} (h : c.ranges.length < Word.bound64) :
    c.toValue.Plain := by
  apply Value.Plain.object
  simp only [List.forall_mem_cons, List.not_mem_nil, false_imp_iff, implies_true, and_true]
  refine ⟨.text _, .text _, Value.plain_nat h, .array fun v hv => ?_⟩
  obtain ⟨r, -, rfl⟩ := List.mem_map.1 hv
  exact plain_rangeValue r

/-- A range is read back from what is stored for it. -/
theorem reads_rangeValue (r : DateRange) : Reads rangeRecord.read (rangeValue r).tokens r := by
  apply Record.reads_object
  -- the members stand in the order of the fields, but any order would do
  exact .cons rfl (by decide) (Record.reads_optional (reads_int64 r.start) _ _)
    (.cons rfl (by decide) (Record.reads_optional (reads_int64 r.stop) _ _)
      (.cons rfl (by decide) (Record.reads_optional (reads_text r.label) _ _)
        (.cons rfl (by decide) (Record.reads_optional (reads_bool r.enabled) _ _)
          (.nil rfl))))

/-- A configuration is read back from what is stored for it. -/
theorem reads_toValue {c : TableConfig} (h : c.ranges.length < Word.bound64) :
    Reads record.read c.toValue.tokens ⟨c, c.ranges.length⟩ := by
  apply Record.reads_object
  exact .cons rfl (by decide) (Record.reads_optional (reads_text c.content) _ _)
    (.cons rfl (by decide) (Record.reads_optional (reads_text c.fallback) _ _)
      (.cons rfl (by decide) (Record.reads_optional (reads_count h) _ _)
        (.cons rfl (by decide) (Record.reads_optional (reads_array_map reads_rangeValue _) _ _)
          (.nil rfl))))

/-- What is stored for a configuration is read back as the configuration. -/
theorem decode_encode {c : TableConfig} (h : c.ranges.length < Word.bound64) :
    decode c.encode = pure (.ok c) := by
  have hread : readText record.read c.encode = .ok ⟨c, c.ranges.length⟩ :=
    readText_of_spells (reads_toValue h) (plain_toValue h).spells_compact
  rw [decode, hread]
  simp only [ne_eq, not_true_eq_false, if_false]

/-! ## Storing again -/

/-- A stored text as it would be stored again. -/
def restored (t : Text) : Except Error Text := (decode t).value.map encode

theorem restored_of_decode {t : Text} {c : TableConfig} (h : (decode t).value = .ok c) :
    restored t = .ok c.encode := by
  rw [restored, h]
  rfl

/-- What is stored determines the configuration. -/
theorem encode_inj {c c' : TableConfig} (h : c.ranges.length < Word.bound64)
    (h' : c'.ranges.length < Word.bound64) : c.encode = c'.encode ↔ c = c' := by
  constructor
  · intro hencode
    have hdecode := congrArg (fun t => (decode t).value) hencode
    simp only [decode_encode h, decode_encode h', Journaled.value_pure] at hdecode
    exact Except.ok.inj hdecode
  · exact congrArg encode

/-- A configuration is read back from what is stored for it, with nothing noted, so no other one is
stored like it. An accepted text that is stored again is read as the same configuration and from
then on stays as it is; and two accepted texts are stored again alike if and only if they are read
as one configuration. -/
theorem stored_roundTrip :
    (∀ c : TableConfig, c.ranges.length < Word.bound64 → decode c.encode = pure (.ok c))
    ∧ (∀ c c' : TableConfig, c.ranges.length < Word.bound64 → c'.ranges.length < Word.bound64 →
      (c.encode = c'.encode ↔ c = c'))
    ∧ ∀ (t : Text) (c : TableConfig), (decode t).value = .ok c → c.ranges.length < Word.bound64 →
      ∃ canonical, restored t = .ok canonical ∧ decode canonical = pure (.ok c)
        ∧ restored canonical = .ok canonical
        ∧ ∀ t' c', (decode t').value = .ok c' → c'.ranges.length < Word.bound64 →
          (restored t' = .ok canonical ↔ c' = c) := by
  refine ⟨fun c => decode_encode, fun c c' => encode_inj, ?_⟩
  intro t c hread hlen
  have hagain : decode c.encode = pure (.ok c) := decode_encode hlen
  refine ⟨c.encode, restored_of_decode hread, hagain, ?_, ?_⟩
  · apply restored_of_decode
    rw [hagain]
    rfl
  · intro t' c' hread' hlen'
    rw [restored_of_decode hread', Except.ok.injEq]
    exact encode_inj hlen' hlen

/-- A label that needs escapes in a range that is as long as can be, beside an empty label; and two
texts that are read alike, one with another number of ranges, an unknown member and blanks. -/
theorem stored_roundTrip_escaped :
    let longest : DateRange := ⟨Int64.minValue, Int64.maxValue, "\"\\\n\x00é😀".toList, true⟩
    let unlabelled : DateRange := ⟨0, -1, [], false⟩
    let c : TableConfig := ⟨"| Week 1 |\n".toList, "\t".toList, [longest, unlabelled, unlabelled]⟩
    let c' : TableConfig := { c with ranges := [unlabelled, longest, unlabelled] }
    let t : Text := " \x7b\"numranges\": 9, \"x\": [null], \"content\": \"\\u0041\"\x7d".toList
    let t' : Text := "\x7b\"content\":\"A\"\x7d".toList
    decode c.encode = pure (.ok c) ∧ c.encode ≠ c'.encode
      ∧ ∃ canonical, restored t = .ok canonical ∧ restored t' = .ok canonical
        ∧ restored canonical = .ok canonical := by
  intro longest unlabelled c c' t t'
  obtain ⟨hdecode, hencode, hrestored⟩ := stored_roundTrip
  have hread : (decode t).value = .ok ⟨['A'], [], []⟩ := by decide +kernel
  have hread' : (decode t').value = .ok ⟨['A'], [], []⟩ := by decide +kernel
  obtain ⟨canonical, ht, -, hcanonical, hsame⟩ := hrestored t _ hread (by decide)
  refine ⟨hdecode c (by decide), ?_, canonical, ht, ?_, hcanonical⟩
  · rw [ne_eq, hencode c c' (by decide) (by decide)]
    decide +kernel
  · exact (hsame t' _ hread' (by decide)).2 rfl

end ProgressTable.TableConfig
