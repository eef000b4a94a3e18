import Mathlib.Tactic
import ProgressTable.Proofs.Form.EverySlot

/-!
# How a slot is spelled

A slot is visited if its number can be read behind the name of a slot's field, and more can be read
than the canonical numeral: zeros and a plus sign may stand before it. So `startdate+3` has slot 3
visited for a form in which none of the four fields of slot 3 was submitted.

`slots_spelled` says which slots are visited. All slots with a field of their own are among them,
and they are the only ones just if no stray name spells a slot that has none.
-/

namespace ProgressTable

/-! ## Names that spell a slot -/

namespace FieldName

variable {name : Text} {slot : Nat}

/-- A name in which a numeral of the slot, canonical or not, stands behind the name of a slot's
field. -/
def Spells (name : Text) (slot : Nat) : Prop :=
  ∃ b ∈ slotNames, ∃ numeral, name = b ++ numeral ∧ Numeral.Denotes numeral slot

theorem spells_ofSlot {b : Text} (hb : b ∈ slotNames) (slot : Nat) : Spells (ofSlot b slot) slot :=
  ⟨b, hb, Numeral.ofNat slot, rfl, Numeral.denotes_ofNat slot⟩

/-- A name belongs to the slot that it spells. -/
theorem slot?_eq_some_iff : slot? name = some slot ↔ Spells name slot ∧ slot < Word.bound64 := by
  constructor
  · intro h
    obtain ⟨b, hb, hread⟩ := List.exists_of_findSome?_eq_some h
    obtain ⟨numeral, hstart, hcount⟩ := Option.bind_eq_some_iff.1 hread
    obtain ⟨hdenotes, hlt⟩ := Numeral.readCount?_eq_some_iff.1 hcount
    have hname : name = b ++ numeral := (List.isPrefixOf?_eq_some_iff_append_eq.1 hstart).symm
    exact ⟨⟨b, hb, numeral, hname, hdenotes⟩, hlt⟩
  · rintro ⟨⟨b, hb, numeral, rfl, hdenotes⟩, hlt⟩
    rw [slot?_append hb, Numeral.readCount?_eq_some_iff]
    exact ⟨hdenotes, hlt⟩

/-- A name that spells a slot is the name of one of its fields unless it is stray. -/
theorem Spells.eq_ofSlot (h : Spells name slot) (hstray : ¬ IsStray name) :
    ∃ b ∈ slotNames, name = ofSlot b slot := by
  obtain ⟨b, hb, numeral, rfl, hdenotes⟩ := h
  by_contra hother
  refine hstray ⟨b, hb, numeral, rfl, fun n _ hn => hother ⟨b, hb, ?_⟩⟩
  -- a canonical numeral is that of the number it denotes
  rw [hn] at hdenotes
  rw [hn, (Numeral.denotes_ofNat n).unique hdenotes, ofSlot]

end FieldName

/-! ## The slots that are visited -/

namespace Submission

variable (d : Submission)

/-- One of the four fields of the slot was submitted. -/
def HasField (slot : Nat) : Prop :=
  ∃ b ∈ FieldName.slotNames, FieldName.ofSlot b slot ∈ d.values.keys

instance (slot : Nat) : Decidable (d.HasField slot) :=
  inferInstanceAs (Decidable (∃ b ∈ FieldName.slotNames, FieldName.ofSlot b slot ∈ d.values.keys))

variable {d} {slot : Nat}

/-- The visited slots are those below the number of slots that some submitted name spells. -/
theorem mem_slots_iff_spells :
    slot ∈ d.slots ↔ slot < d.numRanges ∧ ∃ name ∈ d.values.keys, FieldName.Spells name slot := by
  rw [mem_slots]
  constructor
  · rintro ⟨⟨name, hname, hslot⟩, hlt⟩
    exact ⟨hlt, name, hname, (FieldName.slot?_eq_some_iff.1 hslot).1⟩
  · rintro ⟨hlt, name, hname, hspells⟩
    have hword := lt_bound64_of_lt_numRanges hlt
    exact ⟨⟨name, hname, FieldName.slot?_eq_some_iff.2 ⟨hspells, hword⟩⟩, hlt⟩

/-- No slot that has a field is passed over. -/
theorem mem_slots_of_hasField (hlt : slot < d.numRanges) (h : d.HasField slot) :
    slot ∈ d.slots := by
  obtain ⟨b, hb, hmem⟩ := h
  exact mem_slots_iff_spells.2 ⟨hlt, _, hmem, FieldName.spells_ofSlot hb slot⟩

/-- A slot without fields is visited for the sake of a stray name only. -/
theorem exists_isStray_of_mem_slots (h : slot ∈ d.slots) (hnone : ¬ d.HasField slot) :
    ∃ name ∈ d.values.keys, FieldName.IsStray name ∧ FieldName.Spells name slot := by
  obtain ⟨-, name, hname, hspells⟩ := mem_slots_iff_spells.1 h
  refine ⟨name, hname, ?_, hspells⟩
  by_contra hstray
  obtain ⟨b, hb, rfl⟩ := hspells.eq_ofSlot hstray
  exact hnone ⟨b, hb, hname⟩

/-- The visited slots rise, and they are the numbers below the number of slots that the name of a
submitted field spells. They are those with a field of their own just if every slot below the number
of slots that a stray name spells has such a field as well. -/
theorem slots_spelled (d : Submission) :
    d.slots.Pairwise (· < ·)
    ∧ (∀ slot, slot ∈ d.slots ↔
      slot < d.numRanges ∧ ∃ name ∈ d.values.keys, FieldName.Spells name slot)
    ∧ ((∀ slot, slot ∈ d.slots ↔ slot < d.numRanges ∧ d.HasField slot) ↔
      ∀ name ∈ d.values.keys, FieldName.IsStray name →
        ∀ slot < d.numRanges, FieldName.Spells name slot → d.HasField slot) := by
  refine ⟨pairwise_slots, fun _ => mem_slots_iff_spells, fun h => ?_, fun h slot => ?_⟩
  · intro name hname _ slot hlt hspells
    exact ((h slot).1 (mem_slots_iff_spells.2 ⟨hlt, name, hname, hspells⟩)).2
  · constructor
    · intro hslot
      have hlt := (mem_slots_iff_spells.1 hslot).1
      refine ⟨hlt, by_contra fun hnone => ?_⟩
      obtain ⟨name, hname, hstray, hspells⟩ := exists_isStray_of_mem_slots hslot hnone
      exact hnone (h name hname hstray slot hlt hspells)
    · rintro ⟨hlt, hfield⟩
      exact mem_slots_of_hasField hlt hfield

/-- Slot 3 is visited though it has no field: its number stands behind a plus sign. -/
theorem slots_of_plus_sign :
    let d := ((empty.set FieldName.numRanges ['5']).set "datestring0".toList "Spring".toList).set
      "startdate+3".toList "100".toList
    d.slots = [0, 3] ∧ 3 < d.numRanges ∧ ¬ d.HasField 3 := by
  decide +kernel

end Submission

end ProgressTable
