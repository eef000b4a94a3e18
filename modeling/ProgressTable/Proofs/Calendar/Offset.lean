import Mathlib.Tactic
import ProgressTable.Calendar.DateFormat

/-!
# Offsets from UTC

A date format with an offset prints a time as the format without one prints the time that many
minutes later, if the items of its pattern show the wall clock alone (`format_offset`). An item that
shows the offset, or the seconds since 1970, tells the two apart, and so does one that cannot be
printed: then the seconds are all there is to see.

An offset is kept in seconds. Minutes make one if their seconds fit a word and are less than a day;
the word is no bound of its own, because a day is shorter (`UtcOffset.ofMinutes?_eq_none_iff`).
-/

namespace ProgressTable

/-! ## Minutes and seconds -/

namespace Word

theorem int32?_eq_some_iff {n : Int} {w : Int32} : int32? n = some w ↔ w.toInt = n := by
  have hbound : (bound31 : Int) = 2 ^ 31 := rfl
  rw [int32?]
  constructor
  · intro h
    split at h
    · next hfits =>
      simp only [fits, Bool.and_eq_true, decide_eq_true_eq] at hfits
      obtain rfl := Option.some.inj h
      exact Int32.toInt_ofInt_of_le (by omega) (by omega)
    · cases h
  · rintro rfl
    have hlo := w.le_toInt
    have hhi := w.toInt_lt
    have hfits : fits bound31 w.toInt = true := by
      simp only [fits, Bool.and_eq_true, decide_eq_true_eq]
      omega
    rw [if_pos hfits, Int32.ofInt_toInt]

/-- A product is given just if it is the product of the numbers. -/
theorem mul32?_eq_some_iff {a b c : Int32} :
    mul32? a b = some c ↔ c.toInt = a.toInt * b.toInt :=
  int32?_eq_some_iff

end Word

namespace UtcOffset

variable {minutes : Int32}

theorem lt_day_iff {seconds : Int32} :
    -86400 < seconds ∧ seconds < 86400 ↔ seconds.toInt.natAbs < 86400 := by
  have hday : (86400 : Int32).toInt = 86400 := by decide
  have hback : (-86400 : Int32).toInt = -86400 := by decide
  rw [Int32.lt_iff_toInt_lt, Int32.lt_iff_toInt_lt, hday, hback]
  omega

theorem east?_eq_some_iff {seconds : Int32} {offset : UtcOffset} :
    east? seconds = some offset ↔ offset.seconds = seconds := by
  rw [east?]
  constructor
  · intro h
    split at h
    · obtain rfl := Option.some.inj h
      rfl
    · cases h
  · rintro rfl
    rw [dif_pos offset.lt_day]

/-- Minutes make the offset of sixty times as many seconds. -/
theorem ofMinutes?_eq_some_iff {offset : UtcOffset} :
    ofMinutes? minutes = some offset ↔ offset.seconds.toInt = 60 * minutes.toInt := by
  have hsixty : (60 : Int32).toInt = 60 := by decide
  rw [ofMinutes?, Option.bind_eq_some_iff]
  constructor
  · rintro ⟨seconds, hmul, heast⟩
    rw [Word.mul32?_eq_some_iff, hsixty, Int.mul_comm] at hmul
    rw [east?_eq_some_iff.1 heast, hmul]
  · intro h
    refine ⟨offset.seconds, Word.mul32?_eq_some_iff.2 ?_, east?_eq_some_iff.2 rfl⟩
    rw [hsixty, Int.mul_comm, h]

/-- Minutes make no offset just if they are a day or more. -/
theorem ofMinutes?_eq_none_iff : ofMinutes? minutes = none ↔ 1440 ≤ minutes.toInt.natAbs := by
  constructor
  · intro h
    by_contra hshort
    -- less than a day of seconds fits a word, which is then that of an offset
    have hseconds : (Int32.ofInt (60 * minutes.toInt)).toInt = 60 * minutes.toInt :=
      Int32.toInt_ofInt_of_le (by omega) (by omega)
    have hlt := lt_day_iff.2 (show (Int32.ofInt (60 * minutes.toInt)).toInt.natAbs < 86400 by
      rw [hseconds]
      omega)
    have hsome : ofMinutes? minutes = some ⟨_, hlt⟩ := ofMinutes?_eq_some_iff.2 hseconds
    rw [h] at hsome
    cases hsome
  · intro hlong
    cases h : ofMinutes? minutes with
    | none => rfl
    | some offset =>
      have hseconds := ofMinutes?_eq_some_iff.1 h
      have hlt := lt_day_iff.1 offset.lt_day
      omega

end UtcOffset

/-! ## What an item shows -/

namespace DatePattern

/-- Whether an item shows the wall clock and nothing else. -/
def Item.showsClock : Item → Bool
  | .number .epochSeconds _ | .offset _ | .timestamp | .unprintable => false
  | _ => true

/-- All numbers but the seconds since 1970 are read off the wall clock. -/
theorem Field.text_of_ne {f : Field} (h : f ≠ .epochSeconds) (pad : Pad) (t : CivilTime)
    (epoch epoch' : Int) : f.text pad t epoch = f.text pad t epoch' := by
  cases f with
  | epochSeconds => exact absurd rfl h
  | _ => rfl

/-- An item that shows the wall clock is printed, and from the wall clock alone. -/
theorem Item.text?_of_showsClock {i : Item} (h : i.showsClock = true) (t : CivilTime) :
    ∃ text, ∀ epoch offset, i.text? t epoch offset = some text := by
  cases i with
  | number f pad =>
    have hf : f ≠ .epochSeconds := by
      rintro rfl
      cases h
    exact ⟨f.text pad t 0, fun epoch _ => congrArg some (Field.text_of_ne hf pad t epoch 0)⟩
  | fraction digits => cases digits <;> exact ⟨_, fun _ _ => rfl⟩
  | offset style => cases h
  | timestamp => cases h
  | unprintable => cases h
  | _ => exact ⟨_, fun _ _ => rfl⟩

/-- Items that show the wall clock are printed alike at all times at which it stands alike. -/
theorem mapM_text?_of_showsClock {items : List Item} (h : ∀ i ∈ items, i.showsClock = true)
    (t : CivilTime) :
    ∃ texts, ∀ epoch offset, items.mapM (Item.text? t epoch offset) = some texts := by
  induction items with
  | nil => exact ⟨[], fun _ _ => rfl⟩
  | cons i items ih =>
    obtain ⟨text, htext⟩ := Item.text?_of_showsClock (h i List.mem_cons_self) t
    obtain ⟨texts, htexts⟩ := ih fun j hj => h j (List.mem_cons_of_mem i hj)
    refine ⟨text :: texts, fun epoch offset => ?_⟩
    rw [List.mapM_cons, htext, htexts]
    rfl

/-- Nothing is printed if an item cannot be. -/
theorem mapM_text?_of_unprintable {items : List Item} (h : .unprintable ∈ items) (t : CivilTime)
    (epoch : Int) (offset : UtcOffset) : items.mapM (Item.text? t epoch offset) = none := by
  induction items with
  | nil => cases h
  | cons i items ih =>
    rw [List.mapM_cons]
    rcases List.mem_cons.1 h with rfl | h
    · rfl
    · rw [ih h]
      cases i.text? t epoch offset <;> rfl

end DatePattern

open DatePattern

namespace DateFormat

/-! ## Setting a format up -/

/-- The pattern that is used for a pattern, and its items. -/
def effective (p : Text) : Text × List Item :=
  match read? p with
  | some items => (p, items)
  | none => (defaultPattern, defaultItems)

theorem value_create (p : Text) (m : Int32) :
    (create p m).value
      = ⟨(effective p).1, (effective p).2, (UtcOffset.ofMinutes? m).getD .utc⟩ := by
  rw [create, effective]
  cases read? p <;> cases UtcOffset.ofMinutes? m <;> rfl

theorem items_create {p : Text} {items : List Item} (h : read? p = some items) (m : Int32) :
    (create p m).value.items = items := by
  rw [value_create, effective, h]

/-- The offset that is set up, in seconds. -/
theorem seconds_create (p : Text) (m : Int32) :
    (create p m).value.offset.seconds.toInt
      = if m.toInt.natAbs < 1440 then 60 * m.toInt else 0 := by
  rw [value_create]
  cases h : UtcOffset.ofMinutes? m with
  | none =>
    have hlong := UtcOffset.ofMinutes?_eq_none_iff.1 h
    rw [if_neg (by omega), Option.getD_none]
    rfl
  | some offset =>
    have hshort : m.toInt.natAbs < 1440 := by
      by_contra hlong
      rw [UtcOffset.ofMinutes?_eq_none_iff.2 (by omega)] at h
      cases h
    rw [if_pos hshort, Option.getD_some]
    exact UtcOffset.ofMinutes?_eq_some_iff.1 h

/-- An offset of a day or more is none. -/
theorem value_create_of_le {m : Int32} (h : 1440 ≤ m.toInt.natAbs) (p : Text) :
    (create p m).value = (create p 0).value := by
  rw [value_create, value_create, UtcOffset.ofMinutes?_eq_none_iff.2 h]
  rfl

/-! ## Printing -/

/-- The time lies in the calendar. -/
def InCalendar (t : Timestamp) : Prop := firstSecond ≤ t.toInt ∧ t.toInt ≤ lastSecond

instance (t : Timestamp) : Decidable (InCalendar t) := inferInstanceAs (Decidable (_ ∧ _))

variable {f g : DateFormat} {t t' : Timestamp}

theorem format_of_inCalendar (h : InCalendar t) :
    f.format t = match f.items.mapM
        (Item.text? (.ofSeconds (t.toInt + f.offset.seconds.toInt)) t.toInt f.offset) with
      | some texts => texts.flatten
      | none => Numeral.ofInt64 t :=
  if_pos h

theorem format_of_not_inCalendar (h : ¬ InCalendar t) : f.format t = Numeral.ofInt64 t := if_neg h

/-- Two formats print two times alike if their wall clocks stand alike. -/
theorem format_eq_of_clock (hitems : f.items = g.items)
    (hclock : ∀ i ∈ f.items, i.showsClock = true) (ht : InCalendar t) (ht' : InCalendar t')
    (h : t.toInt + f.offset.seconds.toInt = t'.toInt + g.offset.seconds.toInt) :
    f.format t = g.format t' := by
  obtain ⟨texts, htexts⟩ :=
    mapM_text?_of_showsClock hclock (.ofSeconds (t'.toInt + g.offset.seconds.toInt))
  rw [format_of_inCalendar ht, format_of_inCalendar ht', h, ← hitems, htexts, htexts]

/-- A format with an item that cannot be printed leaves every time as a number. -/
theorem format_of_unprintable (h : .unprintable ∈ f.items) (t : Timestamp) :
    f.format t = Numeral.ofInt64 t := by
  by_cases ht : InCalendar t
  · rw [format_of_inCalendar ht, mapM_text?_of_unprintable h]
  · exact format_of_not_inCalendar ht

/-- With a pattern that shows the wall clock alone, an offset of less than a day prints a time as
UTC prints the time that many minutes later, as long as both lie in the calendar. A longer offset
is UTC, also one whose seconds fit no word; any other is kept to the second. A time beyond the
calendar is printed as a number, and so is every time by a pattern with an item that cannot be
printed. -/
theorem format_offset (p : Text) (m : Int32) :
    (∀ items, read? p = some items → (∀ i ∈ items, i.showsClock = true) →
      m.toInt.natAbs < 1440 → ∀ t t' : Timestamp, t'.toInt = t.toInt + 60 * m.toInt →
      InCalendar t → InCalendar t' → (create p m).value.format t = (create p 0).value.format t')
    ∧ (1440 ≤ m.toInt.natAbs → ∀ t, (create p m).value.format t = (create p 0).value.format t)
    ∧ (Word.mul32? m 60 = none → ∀ t, (create p m).value.format t = (create p 0).value.format t)
    ∧ (create p m).value.offset.seconds.toInt
      = (if m.toInt.natAbs < 1440 then 60 * m.toInt else 0)
    ∧ (∀ t, ¬ InCalendar t → (create p m).value.format t = Numeral.ofInt64 t)
    ∧ ∀ items, read? p = some items → .unprintable ∈ items →
      ∀ t, (create p m).value.format t = Numeral.ofInt64 t := by
  refine ⟨?_, fun h t => by rw [value_create_of_le h], fun h t => ?_, seconds_create p m,
    fun t => format_of_not_inCalendar, ?_⟩
  · intro items hread hclock hm t t' hshift ht ht'
    have hitems : (create p m).value.items = (create p 0).value.items := by
      rw [items_create hread, items_create hread]
    rw [← items_create hread m] at hclock
    refine format_eq_of_clock hitems hclock ht ht' ?_
    have hutc : (create p 0).value.offset.seconds.toInt = 0 := seconds_create p 0
    rw [seconds_create, if_pos hm, hutc, hshift]
    omega
  · have hnone : UtcOffset.ofMinutes? m = none := by rw [UtcOffset.ofMinutes?, h, Option.bind_none]
    rw [value_create_of_le (UtcOffset.ofMinutes?_eq_none_iff.1 hnone)]
  · intro items hread hitem t
    rw [← items_create hread m] at hitem
    exact format_of_unprintable hitem t

/-- An hour and a half before half past midnight on the first of March is still February in a leap
year; and an offset that no day has is none. -/
theorem format_offset_leapDay :
    let pattern := "%F %R, day %j".toList
    (create pattern (-90)).value.format 951870600 = "2000-02-29 23:00, day 060".toList
    ∧ (create pattern Int32.maxValue).value.format 951870600
      = (create pattern 0).value.format 951870600
    ∧ (create pattern (-90)).value.format Int64.minValue = Numeral.ofInt64 Int64.minValue := by
  intro pattern
  have hread : (read? pattern).isSome = true := by decide +kernel
  have hclock : ∀ items ∈ read? pattern, ∀ i ∈ items, i.showsClock = true := by decide +kernel
  obtain ⟨items, hitems⟩ := Option.isSome_iff_exists.1 hread
  have hbefore := (format_offset pattern (-90)).1 items hitems (hclock items hitems) (by decide)
    951870600 951865200 (by decide) (by decide) (by decide)
  exact ⟨hbefore.trans (by decide +kernel),
    (format_offset pattern Int32.maxValue).2.2.1 (by decide) _,
    (format_offset pattern (-90)).2.2.2.2.1 _ (by decide)⟩

end DateFormat
end ProgressTable
