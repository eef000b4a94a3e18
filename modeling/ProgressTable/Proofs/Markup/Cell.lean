import Mathlib.Tactic
import ProgressTable.Markup.Cell
import ProgressTable.Proofs.Text.Cut

/-!
# The fragments of a row

Each of the three patterns recognises the cells of its rows as they are written, whatever stands
behind them: a text between two delimiters (`recognises_delimited`), or a width and a text between
carets (`recognises_headerPattern`).

Cutting a row writes nothing new: a character that is not in a row is in none of its fragments,
whichever cells the row was cut by. A row that begins with a cell has it as its first fragment.
-/

namespace ProgressTable.Cell

open Text

variable {d : Char} {t rest : Text} {f : Fragment}

/-! ## Cells as they are written -/

/-- A text between two delimiters, which may hold the delimiter as its first character only, read as
the fragment that `make` makes of it. -/
def DelimitedSource (d : Char) (make : Text → Fragment) (f : Fragment) (part : Text) : Prop :=
  ∃ inner, inner ≠ [] ∧ d ∉ inner.tail ∧ part = d :: inner ++ [d] ∧ f = make inner

/-- Group cells and section cells are recognised alike. -/
theorem recognises_delimited {cells : Pattern Fragment} {make : Text → Fragment}
    (hcells : ∀ t, cells.match? t = (delimited? d t).map fun x => (make x.1, x.2)) :
    cells.Recognises (DelimitedSource d make) := by
  intro t f rest
  rw [hcells, Option.map_eq_some_iff]
  constructor
  · rintro ⟨⟨inner, rest'⟩, hinner, he⟩
    obtain ⟨rfl, rfl⟩ := Prod.mk.inj he
    obtain ⟨hne, htail, rfl⟩ := delimited?_eq_some_iff.1 hinner
    exact ⟨_, ⟨inner, hne, htail, rfl, rfl⟩, by simp⟩
  · rintro ⟨part, ⟨inner, hne, htail, rfl, rfl⟩, rfl⟩
    exact ⟨(inner, rest), delimited?_eq_some_iff.2 ⟨hne, htail, by simp⟩, rfl⟩

theorem recognises_groupPattern :
    groupPattern.Recognises (DelimitedSource '#' .groupCell) :=
  recognises_delimited fun _ => rfl

theorem recognises_sectionPattern :
    sectionPattern.Recognises (DelimitedSource '|' .sectionCell) :=
  recognises_delimited fun _ => rfl

/-- A header cell: a caret, a colon or none, digits of any script, a colon, the text and a caret. -/
structure IsHeaderCell (digits inner part : Text) : Prop where
  digits_ne_nil : digits ≠ []
  isDecimalDigit : ∀ c ∈ digits, isDecimalDigit c = true
  inner_ne_nil : inner ≠ []
  eq_or_eq : part = '^' :: digits ++ ':' :: inner ++ ['^']
    ∨ part = '^' :: ':' :: digits ++ ':' :: inner ++ ['^']

/-- What is read of a header cell: digits that are no width leave it as it is. -/
def headerFragment (digits inner part : Text) : Fragment :=
  match Numeral.readUInt32? digits with
  | some width => .headerCell width inner
  | none => .raw part

/-- A header cell whose text may hold a caret as its first character only. -/
def HeaderSource (f : Fragment) (part : Text) : Prop :=
  ∃ digits inner, IsHeaderCell digits inner part ∧ '^' ∉ inner.tail
    ∧ f = headerFragment digits inner part

/-- A header cell as it was written is read, whatever stands behind it. -/
theorem header?_append {digits inner part : Text} (h : IsHeaderCell digits inner part)
    (htail : '^' ∉ inner.tail) (rest : Text) :
    header? (part ++ rest) = some (headerFragment digits inner part, rest) := by
  obtain ⟨hne, hdigits, hinner, heq⟩ := h
  have hcolon : isDecimalDigit ':' = false := by decide
  -- without its caret the cell is a number, behind a colon or not, and a text
  obtain ⟨r, rfl, hr⟩ : ∃ r, part = '^' :: r
      ∧ skipColon (r ++ rest) = digits ++ ':' :: (inner ++ '^' :: rest) := by
    rcases heq with rfl | rfl
    · refine ⟨_, rfl, ?_⟩
      obtain ⟨c, s, rfl⟩ := List.exists_cons_of_ne_nil hne
      have hc : c ≠ ':' := by
        rintro rfl
        exact Bool.false_ne_true (hcolon.symm.trans (hdigits _ List.mem_cons_self))
      rw [skipColon]
      · simp
      · intro r' he
        exact hc (List.cons.inj he).1
    · exact ⟨_, rfl, by simp [skipColon]⟩
  have htake : (digits ++ ':' :: (inner ++ '^' :: rest)).takeWhile isDecimalDigit = digits := by
    rw [List.takeWhile_append_of_pos hdigits, List.takeWhile_cons_of_neg (by simp [hcolon]),
      List.append_nil]
  have hdrop : (digits ++ ':' :: (inner ++ '^' :: rest)).dropWhile isDecimalDigit
      = ':' :: (inner ++ '^' :: rest) := by
    rw [List.dropWhile_append_of_pos hdigits, List.dropWhile_cons_of_neg (by simp [hcolon])]
  have hempty : digits.isEmpty = false := by rwa [List.isEmpty_eq_false_iff]
  have hbody : delimited? '^' ('^' :: (inner ++ '^' :: rest)) = some (inner, rest) :=
    delimited?_eq_some_iff.2 ⟨hinner, htail, rfl⟩
  have hpart : (r ++ rest).take ((r ++ rest).length - rest.length) = r := by
    rw [List.length_append, Nat.add_sub_cancel, List.take_left]
  simp only [List.cons_append, header?, hr, htake, hdrop, hempty, hbody, hpart, headerFragment,
    Bool.false_eq_true, if_false]
  cases Numeral.readUInt32? digits <;> rfl

/-- What is read as a header cell was written as one. -/
theorem exists_of_header? (h : header? t = some (f, rest)) :
    ∃ digits inner part, IsHeaderCell digits inner part ∧ '^' ∉ inner.tail ∧ t = part ++ rest := by
  unfold header? at h
  split at h
  · next r =>
    simp only at h
    split at h
    · cases h
    · next hempty =>
      split at h
      · next body hbody =>
        split at h
        · next inner rest' hinner =>
          obtain ⟨hne, htail, he⟩ := delimited?_eq_some_iff.1 hinner
          have hrest : rest' = rest := by
            split at h <;> exact (Prod.mk.inj (Option.some.inj h)).2
          obtain ⟨digits, hdigits, hall, hnumber⟩ : ∃ digits, digits ≠ []
              ∧ (∀ c ∈ digits, isDecimalDigit c = true)
              ∧ skipColon r = digits ++ ':' :: (inner ++ '^' :: rest) := by
            refine ⟨_, by simpa using hempty, fun c hc => List.mem_takeWhile_imp hc, ?_⟩
            have hbody' : body = inner ++ '^' :: rest := hrest ▸ (List.cons.inj he).2
            rw [← hbody', ← hbody, List.takeWhile_append_dropWhile]
          have hr : r = skipColon r ∨ r = ':' :: skipColon r := by
            unfold skipColon
            split
            · exact .inr rfl
            · exact .inl rfl
          rw [hnumber] at hr
          rcases hr with rfl | rfl
          · exact ⟨digits, inner, _, ⟨hdigits, hall, hne, .inl rfl⟩, htail, by simp⟩
          · exact ⟨digits, inner, _, ⟨hdigits, hall, hne, .inr rfl⟩, htail, by simp⟩
        · cases h
      · cases h
  · cases h

theorem recognises_headerPattern : headerPattern.Recognises HeaderSource := by
  intro t f rest
  constructor
  · intro h
    obtain ⟨digits, inner, part, hcell, htail, rfl⟩ := exists_of_header? h
    refine ⟨part, ⟨digits, inner, hcell, htail, ?_⟩, rfl⟩
    have he := (header?_append hcell htail rest).symm.trans h
    exact (Prod.mk.inj (Option.some.inj he)).1.symm
  · rintro ⟨part, ⟨digits, inner, hcell, htail, rfl⟩, rfl⟩
    exact header?_append hcell htail rest

/-! ## Nothing new is written -/

theorem not_mem_of_header? (hd : d ∉ t) (h : header? t = some (f, rest)) :
    d ∉ f.text ∧ d ∉ rest := by
  obtain ⟨part, ⟨digits, inner, hcell, -, rfl⟩, rfl⟩ := (recognises_headerPattern t f rest).1 h
  rw [List.mem_append, not_or] at hd
  refine ⟨?_, hd.2⟩
  have hinner : d ∉ inner := fun hm => hd.1 (by rcases hcell.eq_or_eq with rfl | rfl <;> simp [hm])
  rw [headerFragment]
  split
  · exact hinner
  · exact hd.1

/-- The same for the cells of groups and sections, which are cut alike. -/
theorem not_mem_of_map_delimited? {c : Char} {make : Text → Fragment}
    (hmake : ∀ s, (make s).text = s) (hd : d ∉ t)
    (h : (delimited? c t).map (fun x => (make x.1, x.2)) = some (f, rest)) :
    d ∉ f.text ∧ d ∉ rest := by
  obtain ⟨⟨inner, r⟩, hinner, he⟩ := Option.map_eq_some_iff.1 h
  obtain ⟨rfl, rfl⟩ := Prod.mk.inj he
  rw [hmake]
  exact not_mem_of_delimited? hd hinner

/-- The fragments of a row are pieces of its text. -/
theorem not_mem_of_mem_fragments {cells : Pattern Fragment}
    (hcells : ∀ t f rest, d ∉ t → cells.match? t = some (f, rest) → d ∉ f.text ∧ d ∉ rest)
    (hd : d ∉ t) : ∀ f ∈ fragments cells t, d ∉ f.text := by
  intro f hf
  obtain ⟨x, hx, rfl⟩ := List.mem_map.1 hf
  have havoid : Piece.Avoids d (fun f => d ∉ f.text) x :=
    Pattern.avoids_of_mem_pieces hcells t hd x hx
  cases x with
  | verbatim s => exact havoid
  | found f => exact havoid

theorem not_mem_of_mem_headerFragments (hd : d ∉ t) :
    ∀ f ∈ fragments headerPattern t, d ∉ f.text :=
  not_mem_of_mem_fragments (fun _ _ _ => not_mem_of_header?) hd

theorem not_mem_of_mem_groupFragments (hd : d ∉ t) :
    ∀ f ∈ fragments groupPattern t, d ∉ f.text :=
  not_mem_of_mem_fragments (fun _ _ _ => not_mem_of_map_delimited? fun _ => rfl) hd

theorem not_mem_of_mem_sectionFragments (hd : d ∉ t) :
    ∀ f ∈ fragments sectionPattern t, d ∉ f.text :=
  not_mem_of_mem_fragments (fun _ _ _ => not_mem_of_map_delimited? fun _ => rfl) hd

theorem fragments_of_match {cells : Pattern Fragment} (h : cells.match? t = some (f, rest)) :
    fragments cells t = f :: fragments cells rest := by
  rw [fragments, Pattern.pieces_of_match h]
  rfl

/-- The first fragment in the row of a group or a section is the cell that it was recognised by. -/
theorem fragments_of_delimited? {cells : Pattern Fragment} {make : Text → Fragment}
    (hcells : ∀ t, cells.match? t = (delimited? d t).map fun x => (make x.1, x.2)) {inner : Text}
    (h : delimited? d t = some (inner, rest)) :
    fragments cells t = make inner :: fragments cells rest := by
  apply fragments_of_match
  rw [hcells, h]
  rfl

end ProgressTable.Cell
