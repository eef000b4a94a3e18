import Mathlib.Tactic
import ProgressTable.Text.Dict

/-!
# Looking up in dictionaries

Setting the value of a key changes the answer for that key and for no other one (`get?_insert`).
A list of entries whose keys rise already is the list of entries of its dictionary
(`entries_ofList`), so a dictionary that is written out and read back is the same one.
-/

namespace ProgressTable

/-! ## Some of the entries -/

section Entries

variable {κ α : Type} [BEq κ] [LawfulBEq κ]

/-- The entries whose keys are kept are found as before. -/
theorem lookup_filter (keep : κ → Bool) (entries : List (κ × α)) (k : κ) :
    (entries.filter fun e => keep e.1).lookup k = if keep k then entries.lookup k else none := by
  induction entries with
  | nil => simp
  | cons e entries ih =>
    obtain ⟨k', v⟩ := e
    by_cases hk : k = k'
    · subst hk
      by_cases hkeep : keep k = true
      · simp [hkeep]
      · simpa [hkeep] using ih
    · -- the entry of another key is passed over, whether it is kept or not
      have hbeq : (k == k') = false := beq_eq_false_iff_ne.2 hk
      rw [List.filter_cons]
      split
      · rw [List.lookup_cons, hbeq, List.lookup_cons, hbeq, ih]
      · rw [ih, List.lookup_cons, hbeq]

variable [DecidableEq κ] {entries : List (κ × α)} {k other : κ}

theorem lookup_filter_ne (h : other ≠ k) :
    (entries.filter (·.1 ≠ k)).lookup other = entries.lookup other := by
  have hkeep : decide (other ≠ k) = true := decide_eq_true h
  rw [lookup_filter (fun k' => decide (k' ≠ k)), if_pos hkeep]

end Entries

namespace Dict

variable {α : Type}

/-! ## Setting one value -/

theorem lookup_insertEntry_self (k : Text) (v : α) (es : List (Text × α)) :
    (insertEntry k v es).lookup k = some v := by
  induction es with
  | nil => simp [insertEntry]
  | cons e r ih =>
    obtain ⟨k', v'⟩ := e
    unfold insertEntry
    split
    · exact List.lookup_cons_self
    · split
      · exact List.lookup_cons_self
      · next hne =>
        have hbeq : (k == k') = false := beq_eq_false_iff_ne.2 hne
        rw [List.lookup_cons, hbeq]
        exact ih

theorem lookup_insertEntry_of_ne {k x : Text} (h : x ≠ k) (v : α) (es : List (Text × α)) :
    (insertEntry k v es).lookup x = es.lookup x := by
  have hbeq : (x == k) = false := beq_eq_false_iff_ne.2 h
  induction es with
  | nil => simp [insertEntry, List.lookup_cons, hbeq]
  | cons e r ih =>
    obtain ⟨k', v'⟩ := e
    unfold insertEntry
    split
    · rw [List.lookup_cons, hbeq]
    · split
      · next heq =>
        subst heq
        rw [List.lookup_cons, hbeq, List.lookup_cons, hbeq]
      · rw [List.lookup_cons, ih, ← List.lookup_cons]

/-- Setting a value changes the answer for one key. -/
theorem get?_insert (d : Dict α) (k x : Text) (v : α) :
    (d.insert k v).get? x = if x = k then some v else d.get? x := by
  split
  · next h =>
    subst h
    exact lookup_insertEntry_self x v d.entries
  · next h => exact lookup_insertEntry_of_ne h v d.entries

theorem get?_insert_self (d : Dict α) (k : Text) (v : α) : (d.insert k v).get? k = some v :=
  lookup_insertEntry_self k v d.entries

theorem get?_insert_of_ne {k x : Text} (h : x ≠ k) (d : Dict α) (v : α) :
    (d.insert k v).get? x = d.get? x :=
  lookup_insertEntry_of_ne h v d.entries

/-- A key that has a value is one of the keys. -/
theorem mem_keys_of_get? {d : Dict α} {k : Text} {v : α} (h : d.get? k = some v) : k ∈ d.keys := by
  rw [get?, List.lookup_eq_some_iff] at h
  obtain ⟨l₁, l₂, hes, -⟩ := h
  rw [keys, hes]
  simp

/-! ## Some of the keys -/

/-- The entries with these keys. -/
def restrict (d : Dict α) (keys : List Text) : Dict α where
  entries := d.entries.filter fun e => e.1 ∈ keys
  rising := d.rising.sublist (List.filter_sublist.map Prod.fst)

/-- The keys that are kept keep their values. -/
theorem get?_restrict (d : Dict α) (keys : List Text) (x : Text) :
    (d.restrict keys).get? x = if x ∈ keys then d.get? x else none := by
  show (d.entries.filter fun e => decide (e.1 ∈ keys)).lookup x = _
  rw [lookup_filter fun k => decide (k ∈ keys)]
  simp only [decide_eq_true_eq, get?]

/-! ## Dictionaries of lists -/

/-- A key above all others is put behind them. -/
theorem insertEntry_of_lt {k : Text} {v : α} {es : List (Text × α)}
    (h : ∀ x ∈ es.map Prod.fst, x < k) : insertEntry k v es = es ++ [(k, v)] := by
  induction es with
  | nil => rfl
  | cons e r ih =>
    obtain ⟨k', v'⟩ := e
    have hlt : k' < k := h k' (by simp)
    have hnot : ¬ k < k' := fun h' => List.lt_irrefl k (List.lt_trans h' hlt)
    have hne : k ≠ k' := by
      rintro rfl
      exact List.lt_irrefl k hlt
    rw [insertEntry, if_neg hnot, if_neg hne, ih fun x hx => h x (List.mem_cons_of_mem _ hx)]
    rfl

theorem entries_foldl_insert {d : Dict α} {es : List (Text × α)}
    (h : ((d.entries ++ es).map Prod.fst).Pairwise (· < ·)) :
    (es.foldl (fun d e => d.insert e.1 e.2) d).entries = d.entries ++ es := by
  induction es generalizing d with
  | nil => exact (List.append_nil _).symm
  | cons e es ih =>
    have hlast : ∀ x ∈ d.entries.map Prod.fst, x < e.1 := by
      intro x hx
      rw [List.map_append, List.pairwise_append] at h
      exact h.2.2 x hx e.1 List.mem_cons_self
    have hinsert : (d.insert e.1 e.2).entries = d.entries ++ [e] := insertEntry_of_lt hlast
    -- the entry moves from the list into the dictionary, where it is the last one
    have hassoc : d.entries ++ e :: es = d.entries ++ [e] ++ es := by simp
    rw [hassoc, ← hinsert] at h
    rw [List.foldl_cons, ih h, hinsert, hassoc]

/-- The last value that is set for a key stays. -/
theorem get?_foldl_insert (es : List (Text × α)) (d : Dict α) (x : Text) :
    (es.foldl (fun d e => d.insert e.1 e.2) d).get? x = ((ofList es).get? x).or (d.get? x) := by
  induction es generalizing d with
  | nil => rfl
  | cons e es ih =>
    rw [ofList, List.foldl_cons, List.foldl_cons, ih, ih (empty.insert e.1 e.2), get?_insert,
      get?_insert, Option.or_assoc]
    split <;> rfl

/-- Of two lists of entries the second one is asked first. -/
theorem get?_ofList_append (es fs : List (Text × α)) (x : Text) :
    (ofList (es ++ fs)).get? x = ((ofList fs).get? x).or ((ofList es).get? x) := by
  rw [ofList, List.foldl_append, get?_foldl_insert]
  rfl

/-- Entries whose keys rise are those of their dictionary. -/
theorem entries_ofList {es : List (Text × α)} (h : (es.map Prod.fst).Pairwise (· < ·)) :
    (ofList es).entries = es :=
  entries_foldl_insert (d := empty) h

theorem ofList_entries (d : Dict α) : ofList d.entries = d := ext (entries_ofList d.rising)

/-! ## Dictionaries of lists in any order -/

theorem insertEntry_perm {k : Text} {v : α} {es : List (Text × α)} (h : k ∉ es.map Prod.fst) :
    (insertEntry k v es).Perm ((k, v) :: es) := by
  induction es with
  | nil => exact .refl _
  | cons e r ih =>
    obtain ⟨k', v'⟩ := e
    rw [List.map_cons, List.mem_cons, not_or] at h
    rw [insertEntry]
    split
    · exact .refl _
    · rw [if_neg h.1]
      exact ((ih h.2).cons _).trans (.swap _ _ _)

theorem entries_foldl_insert_perm {d : Dict α} {es : List (Text × α)}
    (h : ((es ++ d.entries).map Prod.fst).Nodup) :
    (es.foldl (fun d e => d.insert e.1 e.2) d).entries.Perm (es ++ d.entries) := by
  induction es generalizing d with
  | nil => exact .refl _
  | cons e es ih =>
    have hnew : e.1 ∉ (es ++ d.entries).map Prod.fst := (List.nodup_cons.1 h).1
    have hinsert : (d.insert e.1 e.2).entries.Perm (e :: d.entries) := by
      apply insertEntry_perm
      rw [List.map_append, List.mem_append, not_or] at hnew
      exact hnew.2
    -- the entry moves from the front of the list to the front of the dictionary
    have hmoved : (es ++ (d.insert e.1 e.2).entries).Perm (e :: es ++ d.entries) :=
      (hinsert.append_left es).trans List.perm_middle
    rw [List.foldl_cons]
    exact (ih ((hmoved.map Prod.fst).nodup_iff.2 h)).trans hmoved

/-- A dictionary does not depend on the order in which its entries were listed. -/
theorem ofList_eq_of_perm {d : Dict α} {es : List (Text × α)} (h : es.Perm d.entries) :
    ofList es = d := by
  have hrising : (d.entries.map Prod.fst).Nodup :=
    d.rising.imp fun hlt => fun heq => List.lt_irrefl _ (heq ▸ hlt)
  have hkeys : (es.map Prod.fst).Nodup := (h.map Prod.fst).nodup_iff.2 hrising
  have hperm : (ofList es).entries.Perm d.entries := by
    have hfold : (ofList es).entries.Perm (es ++ []) :=
      entries_foldl_insert_perm (d := empty) (by rwa [empty, List.append_nil])
    rw [List.append_nil] at hfold
    exact hfold.trans h
  -- both lists of entries rise, and there is only one rising list of certain entries
  refine ext (hperm.eq_of_pairwise ?_ (List.pairwise_map.1 (ofList es).rising)
    (List.pairwise_map.1 d.rising))
  exact fun a b _ _ hab hba => absurd (List.lt_trans hab hba) (List.lt_irrefl _)

theorem mem_insertEntry {k : Text} {v : α} {es : List (Text × α)} {e : Text × α}
    (h : e ∈ insertEntry k v es) : e = (k, v) ∨ e ∈ es := by
  induction es with
  | nil => exact .inl (List.mem_singleton.1 h)
  | cons e' r ih =>
    obtain ⟨k', v'⟩ := e'
    rw [insertEntry] at h
    split at h
    · exact List.mem_cons.1 h
    · split at h
      · rcases List.mem_cons.1 h with h | h
        · exact .inl h
        · exact .inr (List.mem_cons_of_mem _ h)
      · rcases List.mem_cons.1 h with h | h
        · exact .inr (h ▸ List.mem_cons_self)
        · exact (ih h).imp id (List.mem_cons_of_mem _)

/-- The entries of the dictionary of a list come from the list. -/
theorem mem_of_mem_entries_ofList {es : List (Text × α)} :
    ∀ e ∈ (ofList es).entries, e ∈ es := by
  have hfold : ∀ (es : List (Text × α)) (d : Dict α) (e : Text × α),
      e ∈ (es.foldl (fun d e => d.insert e.1 e.2) d).entries → e ∈ d.entries ∨ e ∈ es := by
    intro es
    induction es with
    | nil => exact fun d e he => .inl he
    | cons x es ih =>
      intro d e he
      rcases ih _ e he with h | h
      · rcases mem_insertEntry h with h | h
        · exact .inr (h ▸ List.mem_cons_self)
        · exact .inl h
      · exact .inr (List.mem_cons_of_mem x h)
  intro e he
  rcases hfold es empty e he with h | h
  · exact absurd h List.not_mem_nil
  · exact h

end Dict

end ProgressTable
