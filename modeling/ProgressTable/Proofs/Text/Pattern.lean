import Mathlib.Data.List.TakeWhile
import Mathlib.Tactic
import ProgressTable.Text.Pattern

/-!
# Cutting by a pattern

The equations of `Pattern.pieces`, one for a match and one for a character that begins none, and
what follows from them: a character that is not in a text comes from none of its pieces, a text in
which nothing matches is one piece, and a text that is nothing but matches is cut into just these.

Cells are read between delimiters; `delimited?_eq_some_iff` says what is read, and what is left.
-/

namespace ProgressTable.Text

/-- What a piece must be for a character not to come from it: verbatim text without the character,
or a match with a property that stands for this. -/
def Piece.Avoids {α : Type} (d : Char) (good : α → Prop) : Piece α → Prop
  | .verbatim s => d ∉ s
  | .found a => good a

namespace Pattern

variable {α : Type} {p : Pattern α}

theorem match?_nil (p : Pattern α) : p.match? [] = none := by
  cases h : p.match? [] with
  | none => rfl
  | some x => exact absurd (p.shorter [] x.1 x.2 h) (Nat.not_lt_zero _)

/-! ## Equations -/

theorem pieces_of_match {t rest : Text} {a : α} (h : p.match? t = some (a, rest)) :
    p.pieces t = .found a :: p.pieces rest := by
  rw [pieces]
  split
  · next b r hb =>
    rw [h, Option.some.injEq, Prod.mk.injEq] at hb
    rw [hb.1, hb.2]
  · next hb => rw [h] at hb; exact absurd hb (by simp)

theorem pieces_nil (p : Pattern α) : p.pieces [] = [] := by
  rw [pieces]
  split
  · next b r hb => rw [match?_nil] at hb; exact absurd hb (by simp)
  · rfl

theorem pieces_cons {c : Char} {t : Text} (h : p.match? (c :: t) = none) :
    p.pieces (c :: t) = consVerbatim c (p.pieces t) := by
  rw [pieces]
  split
  · next b r hb => rw [h] at hb; exact absurd hb (by simp)
  · rfl

/-! ## All pieces -/

theorem avoids_consVerbatim {c d : Char} {good : α → Prop} {ps : List (Piece α)} (hne : d ≠ c)
    (h : ∀ x ∈ ps, Piece.Avoids d good x) : ∀ x ∈ consVerbatim c ps, Piece.Avoids d good x := by
  have hsingle : Piece.Avoids d good (.verbatim [c]) := by simpa [Piece.Avoids] using hne
  match ps, h with
  | [], _ => simpa [consVerbatim] using hsingle
  | .found a :: ps, h =>
    intro x hx
    rcases List.mem_cons.1 hx with rfl | hx
    · exact hsingle
    · exact h x hx
  | .verbatim s :: ps, h =>
    intro x hx
    rcases List.mem_cons.1 hx with rfl | hx
    · exact List.not_mem_cons_of_ne_of_not_mem hne (h _ List.mem_cons_self)
    · exact h x (List.mem_cons_of_mem _ hx)

/-- A character that is not in a text comes from none of its pieces, if no match brings it up. -/
theorem avoids_of_mem_pieces {d : Char} {good : α → Prop}
    (hmatch : ∀ t a rest, d ∉ t → p.match? t = some (a, rest) → good a ∧ d ∉ rest)
    (t : Text) (ht : d ∉ t) : ∀ x ∈ p.pieces t, Piece.Avoids d good x := by
  -- on the length, since a match may take many characters at once
  induction hn : t.length using Nat.strong_induction_on generalizing t with
  | _ n ih =>
    subst hn
    cases hm : p.match? t with
    | some x =>
      obtain ⟨a, rest⟩ := x
      have hstep := hmatch t a rest ht hm
      rw [pieces_of_match hm]
      intro x hx
      rcases List.mem_cons.1 hx with rfl | hx
      · exact hstep.1
      · exact ih rest.length (p.shorter t a rest hm) rest hstep.2 rfl x hx
    | none =>
      cases t with
      | nil => simp [pieces_nil]
      | cons c r =>
        rw [pieces_cons hm]
        exact avoids_consVerbatim (List.ne_of_not_mem_cons ht)
          (ih r.length (Nat.lt_succ_self _) r (List.not_mem_of_not_mem_cons ht) rfl)

/-- A text in which nothing matches is one piece. -/
theorem pieces_of_none {t : Text} (hne : t ≠ []) (h : ∀ s, s <:+ t → p.match? s = none) :
    p.pieces t = [.verbatim t] := by
  induction t with
  | nil => exact absurd rfl hne
  | cons c r ih =>
    rw [pieces_cons (h _ (List.suffix_refl _))]
    cases r with
    | nil =>
      rw [pieces_nil]
      rfl
    | cons d r =>
      rw [ih (by simp) fun s hs => h s (hs.trans (List.suffix_cons c _))]
      rfl

/-- A text in which nothing matches is left as it is. -/
theorem flatMap_pieces_of_none {write : Piece α → Text} (hwrite : ∀ s, write (.verbatim s) = s)
    (t : Text) (h : ∀ s, s <:+ t → p.match? s = none) : (p.pieces t).flatMap write = t := by
  by_cases hne : t = []
  · rw [hne, pieces_nil, List.flatMap_nil]
  · rw [pieces_of_none hne h, List.flatMap_singleton, hwrite]

/-- The matches in a text, from left to right. -/
def found (p : Pattern α) (t : Text) : List α :=
  (p.pieces t).filterMap fun
    | .verbatim _ => none
    | .found a => some a

theorem found_of_match {t rest : Text} {a : α} (h : p.match? t = some (a, rest)) :
    p.found t = a :: p.found rest := by
  rw [found, pieces_of_match h]
  rfl

theorem found_cons {c : Char} {t : Text} (h : p.match? (c :: t) = none) :
    p.found (c :: t) = p.found t := by
  rw [found, pieces_cons h, found]
  cases p.pieces t with
  | nil => rfl
  | cons x ps => cases x <;> rfl

theorem mem_found {t : Text} {a : α} : a ∈ p.found t ↔ .found a ∈ p.pieces t := by
  rw [found, List.mem_filterMap]
  constructor
  · rintro ⟨x, hx, h⟩
    cases x with
    | verbatim s => exact absurd h (by simp)
    | found b => exact Option.some.inj h ▸ hx
  · exact fun h => ⟨_, h, rfl⟩

theorem found_of_none {t : Text} (h : ∀ s, s <:+ t → p.match? s = none) : p.found t = [] := by
  by_cases hne : t = []
  · rw [hne, found, pieces_nil, List.filterMap_nil]
  · rw [found, pieces_of_none hne h]
    rfl

/-- Going over the pieces of a text and leaving out what is verbatim is going over the matches. -/
theorem flatMap_pieces {β : Type} {f : Piece α → List β} (hverbatim : ∀ s, f (.verbatim s) = [])
    (t : Text) : (p.pieces t).flatMap f = (p.found t).flatMap fun a => f (.found a) := by
  rw [found, List.filterMap_eq_flatMap_toList, List.flatMap_assoc]
  apply List.flatMap_congr
  intro x _
  cases x with
  | verbatim s => exact hverbatim s
  | found a => exact (List.flatMap_singleton _ _).symm

/-- A text made of matches, one behind the other, is cut into them. -/
theorem pieces_flatMap {β : Type} {write : β → Text} {value : β → α} (bs : List β)
    (h : ∀ b ∈ bs, ∀ r, p.match? (write b ++ r) = some (value b, r)) :
    p.pieces (bs.flatMap write) = bs.map fun b => .found (value b) := by
  induction bs with
  | nil => exact pieces_nil p
  | cons b bs ih =>
    rw [List.flatMap_cons, pieces_of_match (h b List.mem_cons_self _),
      ih fun c hc => h c (List.mem_cons_of_mem b hc), List.map_cons]

end Pattern

/-! ## Delimited text -/

theorem dropWhile_ne_append {d : Char} {t : Text} (r : Text) (h : d ∉ t) :
    (t ++ d :: r).dropWhile (· ≠ d) = d :: r := by
  rw [List.dropWhile_append_of_pos]
  · simp
  · intro c hc
    simpa using fun he : c = d => h (he ▸ hc)

theorem takeWhile_ne_append {d : Char} {t : Text} (r : Text) (h : d ∉ t) :
    (t ++ d :: r).takeWhile (· ≠ d) = t := by
  rw [List.takeWhile_append_of_pos]
  · simp
  · intro c hc
    simpa using fun he : c = d => h (he ▸ hc)

/-- Delimited text is read up to the next delimiter behind its first character. -/
theorem delimited?_cons {d c : Char} {t : Text} (r : Text) (h : d ∉ t) :
    delimited? d (d :: c :: (t ++ d :: r)) = some (c :: t, r) := by
  simp only [delimited?, if_true, dropWhile_ne_append r h, takeWhile_ne_append r h]

theorem delimited?_append {d : Char} {t : Text} (r : Text) (hne : t ≠ []) (h : d ∉ t) :
    delimited? d (d :: t ++ d :: r) = some (t, r) := by
  obtain ⟨c, s, rfl⟩ := List.exists_cons_of_ne_nil hne
  exact delimited?_cons r (List.not_mem_of_not_mem_cons h)

theorem delimited?_of_head?_ne {d : Char} {t : Text} (h : t.head? ≠ some d) :
    delimited? d t = none := by
  match t with
  | [] => rfl
  | [a] => rfl
  | a :: c :: r =>
    have hne : a ≠ d := fun he => h (by rw [he, List.head?_cons])
    simp only [delimited?, if_neg hne]

/-- Delimited text ends at the first delimiter behind its first character. -/
theorem delimited?_eq_some_iff {d : Char} {t inner rest : Text} :
    delimited? d t = some (inner, rest)
      ↔ inner ≠ [] ∧ d ∉ inner.tail ∧ t = d :: inner ++ d :: rest := by
  constructor
  · intro h
    match t with
    | [] => simp [delimited?] at h
    | [a] => simp [delimited?] at h
    | a :: c :: r =>
      simp only [delimited?] at h
      split at h
      · next ha =>
        split at h
        · cases h
        · next x rest' hr =>
          obtain ⟨rfl, rfl⟩ := Prod.mk.inj (Option.some.inj h)
          subst ha
          -- the text behind the cell begins where the delimiter is met first
          have hx : x = a := by
            have hhead := List.head?_dropWhile_not (· ≠ a) r
            rw [hr] at hhead
            simpa using hhead
          refine ⟨List.cons_ne_nil _ _, fun hm => ?_, ?_⟩
          · have hne : a ≠ a := by simpa using List.mem_takeWhile_imp hm
            exact hne rfl
          · rw [hx] at hr
            rw [List.cons_append, List.cons_append, ← hr, List.takeWhile_append_dropWhile]
      · cases h
  · rintro ⟨hne, htail, rfl⟩
    obtain ⟨c, s, rfl⟩ := List.exists_cons_of_ne_nil hne
    exact delimited?_cons rest htail

/-- A text in front of a delimiter is closed by the first delimiter behind its first character. -/
theorem exists_closed {d : Char} {t : Text} (hne : t ≠ []) :
    ∃ inner more, inner ≠ [] ∧ d ∉ inner.tail ∧ t ++ [d] = inner ++ d :: more := by
  obtain ⟨c, s, rfl⟩ := List.exists_cons_of_ne_nil hne
  by_cases hd : d ∈ s
  · obtain ⟨a, b, rfl, ha⟩ := List.eq_append_cons_of_mem hd
    exact ⟨c :: a, b ++ [d], List.cons_ne_nil c a, ha, by simp⟩
  · exact ⟨c :: s, [], List.cons_ne_nil c s, hd, rfl⟩

/-- Another character behind a text neither closes what was left open nor changes what is read. -/
theorem delimited?_append_singleton {c d : Char} (hc : c ≠ d) (t : Text) :
    delimited? d (t ++ [c]) = (delimited? d t).map fun x => (x.1, x.2 ++ [c]) := by
  cases h : delimited? d t with
  | some x =>
    obtain ⟨hne, htail, rfl⟩ := delimited?_eq_some_iff.1 h
    exact delimited?_eq_some_iff.2 ⟨hne, htail, by simp⟩
  | none =>
    cases h' : delimited? d (t ++ [c]) with
    | none => rfl
    | some x =>
      obtain ⟨hne, htail, he⟩ := delimited?_eq_some_iff.1 h'
      rcases List.eq_nil_or_concat' x.2 with hnil | ⟨rest, e, hrest⟩
      · rw [hnil] at he
        exact absurd (List.append_inj' he rfl).2 (by simpa using hc)
      · rw [hrest, ← List.cons_append, ← List.append_assoc] at he
        obtain ⟨rfl, -⟩ := List.append_inj' he rfl
        rw [delimited?_eq_some_iff.2 ⟨hne, htail, rfl⟩] at h
        cases h

/-- What is read between delimiters, and what is left, is part of the text. -/
theorem not_mem_of_delimited? {d x : Char} {t inner rest : Text} (hx : x ∉ t)
    (h : delimited? d t = some (inner, rest)) : x ∉ inner ∧ x ∉ rest := by
  obtain ⟨-, -, rfl⟩ := delimited?_eq_some_iff.1 h
  simp only [List.mem_append, List.mem_cons, not_or] at hx
  exact ⟨hx.1.2, hx.2.2⟩

end ProgressTable.Text
