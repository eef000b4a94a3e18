import ProgressTable.Text.Basic

/-!
# Dictionaries keyed by text

A submitted form, a set of messages and a JSON object are all dictionaries whose keys are texts,
and wherever one is shown its keys stand in the order of their code points. The order is kept in
the type: a dictionary is a list of entries with rising keys, so two dictionaries with the same
answers are the same dictionary.
-/

namespace ProgressTable

/-- A dictionary from texts to values, its keys rising. -/
structure Dict (α : Type) where
  entries : List (Text × α)
  rising : (entries.map Prod.fst).Pairwise (· < ·)

namespace Dict

variable {α : Type}

@[ext] theorem ext {d e : Dict α} (h : d.entries = e.entries) : d = e := by
  cases d; cases e; simp_all

instance [DecidableEq α] : DecidableEq (Dict α) := fun d e =>
  decidable_of_iff (d.entries = e.entries) ⟨ext, fun h => h ▸ rfl⟩

instance [Repr α] : Repr (Dict α) := ⟨fun d p => reprPrec d.entries p⟩

/-- The dictionary without entries. -/
def empty : Dict α := ⟨[], List.Pairwise.nil⟩

instance : Inhabited (Dict α) := ⟨empty⟩

/-! ## Insertion -/

/-- Puts an entry where its key belongs; a later value takes the place of an earlier one. -/
def insertEntry (k : Text) (v : α) : List (Text × α) → List (Text × α)
  | [] => [(k, v)]
  | (k', v') :: r =>
    if k < k' then (k, v) :: (k', v') :: r
    else if k = k' then (k, v) :: r
    else (k', v') :: insertEntry k v r

theorem mem_keys_insertEntry {k : Text} {v : α} {es : List (Text × α)} {x : Text} :
    x ∈ (insertEntry k v es).map Prod.fst ↔ x = k ∨ x ∈ es.map Prod.fst := by
  induction es with
  | nil => simp [insertEntry]
  | cons e r ih =>
    obtain ⟨k', v'⟩ := e
    rw [insertEntry]
    split
    · simp
    · split
      · next h => subst h; simp
      · simp only [List.map_cons, List.mem_cons, ih]
        grind

private theorem lt_of_not {k k' : Text} (h : ¬ k < k') (hne : k ≠ k') : k' < k := by
  rcases Decidable.em (k' < k) with h' | h'
  · exact h'
  · exact absurd (List.le_antisymm (List.not_lt.1 h') (List.not_lt.1 h)) hne

theorem insertEntry_rising (k : Text) (v : α) (es : List (Text × α))
    (h : (es.map Prod.fst).Pairwise (· < ·)) :
    ((insertEntry k v es).map Prod.fst).Pairwise (· < ·) := by
  induction es with
  | nil => simp [insertEntry]
  | cons e r ih =>
    obtain ⟨k', v'⟩ := e
    rw [List.map_cons, List.pairwise_cons] at h
    rw [insertEntry]
    split
    · next hk =>
      rw [List.map_cons, List.pairwise_cons]
      refine ⟨fun x hx => ?_, List.pairwise_cons.2 h⟩
      rcases List.mem_cons.1 hx with rfl | hx
      · exact hk
      · exact List.lt_trans hk (h.1 x hx)
    · split
      · next hk => subst hk; exact List.pairwise_cons.2 h
      · next hk hne =>
        rw [List.map_cons, List.pairwise_cons]
        refine ⟨fun x hx => ?_, ih h.2⟩
        rcases mem_keys_insertEntry.1 hx with rfl | hx
        · exact lt_of_not hk hne
        · exact h.1 x hx

/-- Sets the value of a key. -/
def insert (d : Dict α) (k : Text) (v : α) : Dict α :=
  ⟨insertEntry k v d.entries, insertEntry_rising k v d.entries d.rising⟩

/-- The dictionary without a key. -/
def erase (d : Dict α) (k : Text) : Dict α where
  entries := d.entries.filter fun e => e.1 ≠ k
  rising := d.rising.sublist (List.filter_sublist.map Prod.fst)

/-- The dictionary of a list of entries; of two values for one key the later one stays. -/
def ofList (es : List (Text × α)) : Dict α :=
  es.foldl (fun d e => d.insert e.1 e.2) empty

/-! ## Reading -/

/-- The value of a key. -/
def get? (d : Dict α) (k : Text) : Option α := d.entries.lookup k

/-- The keys, rising. -/
def keys (d : Dict α) : List Text := d.entries.map Prod.fst

/-- Whether there is no entry. -/
def isEmpty (d : Dict α) : Bool := d.entries.isEmpty

/-- The number of entries. -/
def size (d : Dict α) : Nat := d.entries.length

end Dict
end ProgressTable
