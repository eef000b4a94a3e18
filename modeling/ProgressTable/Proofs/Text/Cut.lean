import Mathlib.Tactic
import ProgressTable.Proofs.Text.Pattern

/-!
# Where the matches of a text stand

Cutting a text takes its matches one by one, each where one begins first. `matches_induction` goes
along them, from a match to the text behind it; `pieces_of_first` and `pieces_of_noneIn` say what
each step cuts off.

What a pattern matches is told by the texts that it takes, whatever stands behind them
(`Pattern.Recognises`). So the pieces of a text were cut from parts that make up the text
(`exists_parts`), no match begins in a verbatim piece (`noneIn_of_mem_pieces`), and a character that
ends no match may be put behind a text without changing one (`pieces_append_singleton`).
-/

namespace ProgressTable.Text

namespace Piece

variable {α : Type}

/-- Verbatim text as a piece, if there is any. -/
def verbatimUnlessEmpty : Text → List (Piece α)
  | [] => []
  | t => [.verbatim t]

/-- What a piece was cut from, where `source` tells the texts that a match takes. -/
inductive CutFrom (source : α → Text → Prop) : Piece α → Text → Prop
  | verbatim {t : Text} (hne : t ≠ []) : CutFrom source (.verbatim t) t
  | found {a : α} {part : Text} (h : source a part) : CutFrom source (.found a) part

theorem eq_of_mem_verbatimUnlessEmpty {t : Text} {x : Piece α} (h : x ∈ verbatimUnlessEmpty t) :
    x = .verbatim t := by
  cases t with
  | nil => exact absurd h List.not_mem_nil
  | cons c t => exact List.mem_singleton.1 h

end Piece

namespace Pattern

open Piece

variable {α : Type} {p : Pattern α}

/-- No match begins in `before` when `rest` stands behind it. -/
def NoneIn (p : Pattern α) (before rest : Text) : Prop :=
  ∀ s, s ≠ [] → s <:+ before → p.match? (s ++ rest) = none

theorem noneIn_nil (rest : Text) : p.NoneIn [] rest :=
  fun _ hne hs => absurd (List.suffix_nil.1 hs) hne

theorem noneIn_cons {c : Char} {before rest : Text} :
    p.NoneIn (c :: before) rest
      ↔ p.match? (c :: (before ++ rest)) = none ∧ p.NoneIn before rest := by
  constructor
  · intro h
    exact ⟨h _ (List.cons_ne_nil c before) (List.suffix_refl _),
      fun s hne hs => h s hne (hs.trans (List.suffix_cons c before))⟩
  · rintro ⟨hc, h⟩ s hne hs
    rcases List.suffix_cons_iff.1 hs with rfl | hs
    · exact hc
    · exact h s hne hs

/-! ## From match to match -/

theorem consVerbatim_verbatimUnlessEmpty (c : Char) (t : Text) (a : α) (ps : List (Piece α)) :
    consVerbatim c (verbatimUnlessEmpty t ++ .found a :: ps)
      = verbatimUnlessEmpty (c :: t) ++ .found a :: ps := by
  cases t <;> rfl

/-- Up to the first match a text is verbatim. -/
theorem pieces_of_first {before s rest : Text} {a : α} (hnone : p.NoneIn before s)
    (hmatch : p.match? s = some (a, rest)) :
    p.pieces (before ++ s) = verbatimUnlessEmpty before ++ .found a :: p.pieces rest := by
  induction before with
  | nil => exact pieces_of_match hmatch
  | cons c before ih =>
    obtain ⟨hc, hbefore⟩ := noneIn_cons.1 hnone
    rw [List.cons_append, pieces_cons hc, ih hbefore, consVerbatim_verbatimUnlessEmpty]

/-- Behind the last match a text is verbatim. -/
theorem pieces_of_noneIn {t : Text} (hnone : p.NoneIn t []) :
    p.pieces t = verbatimUnlessEmpty t := by
  induction t with
  | nil => exact pieces_nil p
  | cons c t ih =>
    obtain ⟨hc, ht⟩ := noneIn_cons.1 hnone
    rw [List.append_nil] at hc
    rw [pieces_cons hc, ih ht]
    cases t <;> rfl

theorem found_of_first {before s rest : Text} {a : α} (hnone : p.NoneIn before s)
    (hmatch : p.match? s = some (a, rest)) : p.found (before ++ s) = a :: p.found rest := by
  rw [found, pieces_of_first hnone hmatch, found]
  cases before <;> rfl

theorem found_of_noneIn {t : Text} (hnone : p.NoneIn t []) : p.found t = [] := by
  rw [found, pieces_of_noneIn hnone]
  cases t <;> rfl

/-- Either no match begins in `before`, or a first one does. -/
theorem noneIn_or_exists_first (p : Pattern α) (before rest : Text) :
    p.NoneIn before rest ∨ ∃ earlier s a more, before = earlier ++ s ∧ s ≠ []
      ∧ p.NoneIn earlier (s ++ rest) ∧ p.match? (s ++ rest) = some (a, more) := by
  induction before with
  | nil => exact .inl (noneIn_nil rest)
  | cons c before ih =>
    cases hc : p.match? (c :: (before ++ rest)) with
    | some x =>
      exact .inr ⟨[], c :: before, x.1, x.2, rfl, List.cons_ne_nil c before, noneIn_nil _, hc⟩
    | none =>
      rcases ih with hbefore | ⟨earlier, s, a, more, rfl, hne, hearlier, hmatch⟩
      · exact .inl (noneIn_cons.2 ⟨hc, hbefore⟩)
      · rw [List.append_assoc] at hc
        exact .inr ⟨c :: earlier, s, a, more, rfl, hne, noneIn_cons.2 ⟨hc, hearlier⟩, hmatch⟩

/-- Induction along the matches of a text: a text with a first match is settled from the text behind
that match. -/
@[elab_as_elim]
theorem matches_induction (p : Pattern α) {motive : Text → Prop}
    (last : ∀ t, p.NoneIn t [] → motive t)
    (first : ∀ before s a rest, p.NoneIn before s → p.match? s = some (a, rest) →
      motive rest → motive (before ++ s)) (t : Text) : motive t := by
  induction hn : t.length using Nat.strong_induction_on generalizing t with
  | _ n ih =>
    subst hn
    rcases p.noneIn_or_exists_first t [] with
      hnone | ⟨before, s, a, rest, rfl, -, hnone, hmatch⟩
    · exact last t hnone
    · rw [List.append_nil] at hnone hmatch
      refine first before s a rest hnone hmatch (ih rest.length ?_ rest rfl)
      have hshorter := p.shorter s a rest hmatch
      rw [List.length_append]
      omega

/-- In a verbatim piece no match begins. -/
theorem noneIn_of_mem_pieces {s : Text} (t : Text) (h : .verbatim s ∈ p.pieces t) :
    ∃ rest, p.NoneIn s rest := by
  induction t using p.matches_induction with
  | last t hnone =>
    rw [pieces_of_noneIn hnone] at h
    cases eq_of_mem_verbatimUnlessEmpty h
    exact ⟨[], hnone⟩
  | first before s' a rest hnone hmatch ih =>
    rw [pieces_of_first hnone hmatch, List.mem_append, List.mem_cons] at h
    rcases h with h | h | h
    · cases eq_of_mem_verbatimUnlessEmpty h
      exact ⟨s', hnone⟩
    · cases h
    · exact ih h

/-- The text behind the last match. -/
def behind (p : Pattern α) (t : Text) : Text :=
  match (p.pieces t).getLast? with
  | some (.verbatim s) => s
  | _ => []

theorem behind_of_noneIn {t : Text} (hnone : p.NoneIn t []) : p.behind t = t := by
  rw [behind, pieces_of_noneIn hnone]
  cases t <;> rfl

theorem behind_of_first {before s rest : Text} {a : α} (hnone : p.NoneIn before s)
    (hmatch : p.match? s = some (a, rest)) : p.behind (before ++ s) = p.behind rest := by
  rw [behind, pieces_of_first hnone hmatch, List.getLast?_append, List.getLast?_cons, behind]
  cases (p.pieces rest).getLast? <;> rfl

/-! ## What a pattern recognises -/

/-- The pattern matches just the texts that `source` tells, whatever stands behind them. -/
def Recognises (p : Pattern α) (source : α → Text → Prop) : Prop :=
  ∀ t a rest, p.match? t = some (a, rest) ↔ ∃ part, source a part ∧ t = part ++ rest

variable {source : α → Text → Prop}

/-- The pieces of a text were cut from parts that make up the text. -/
theorem exists_parts (hp : p.Recognises source) (t : Text) :
    ∃ parts, List.Forall₂ (CutFrom source) (p.pieces t) parts ∧ parts.flatten = t := by
  have hverbatim (s : Text) : ∃ parts,
      List.Forall₂ (CutFrom source) (verbatimUnlessEmpty s) parts ∧ parts.flatten = s := by
    cases s with
    | nil => exact ⟨[], .nil, rfl⟩
    | cons c s => exact ⟨[c :: s], .cons (.verbatim (List.cons_ne_nil c s)) .nil, by simp⟩
  induction t using p.matches_induction with
  | last t hnone =>
    rw [pieces_of_noneIn hnone]
    exact hverbatim t
  | first before s a rest hnone hmatch ih =>
    obtain ⟨parts, hparts, hflatten⟩ := hverbatim before
    obtain ⟨part, hpart, rfl⟩ := (hp s a rest).1 hmatch
    obtain ⟨parts', hparts', hflatten'⟩ := ih
    rw [pieces_of_first hnone hmatch]
    refine ⟨parts ++ part :: parts', List.rel_append hparts (.cons (.found hpart) hparts'), ?_⟩
    rw [List.flatten_append, List.flatten_cons, hflatten, hflatten']

/-- Every match that is found was a text of its own. -/
theorem exists_source_of_mem_pieces (hp : p.Recognises source) {t : Text} {a : α}
    (h : .found a ∈ p.pieces t) : ∃ part, source a part := by
  obtain ⟨parts, hparts, -⟩ := exists_parts hp t
  have hfound : List.Forall₂ (fun x part =>
      (∀ b, x = .found b → ∃ part, source b part) ∧ CutFrom source x part) (p.pieces t) parts := by
    refine hparts.imp fun x part hx => ⟨?_, hx⟩
    rintro b rfl
    cases hx with
    | found hb => exact ⟨part, hb⟩
  exact ((List.forall₂_and_left _ _).1 hfound).1 _ h a rfl

/-- A match is found whatever is put behind the text. -/
theorem match?_append (hp : p.Recognises source) {t rest : Text} {a : α}
    (h : p.match? t = some (a, rest)) (r : Text) : p.match? (t ++ r) = some (a, rest ++ r) := by
  obtain ⟨part, hpart, rfl⟩ := (hp t a rest).1 h
  exact (hp _ a (rest ++ r)).2 ⟨part, hpart, List.append_assoc _ _ _⟩

/-! ## A character behind a text -/

/-- Puts a character behind the pieces, joining it to verbatim text that comes last. -/
def snocVerbatim (c : Char) : List (Piece α) → List (Piece α)
  | [] => [.verbatim [c]]
  | [.verbatim t] => [.verbatim (t ++ [c])]
  | x :: ps => x :: snocVerbatim c ps

theorem snocVerbatim_verbatimUnlessEmpty (c : Char) (t : Text) :
    snocVerbatim (α := α) c (verbatimUnlessEmpty t) = verbatimUnlessEmpty (t ++ [c]) := by
  cases t <;> rfl

theorem snocVerbatim_append_found (c : Char) (t : Text) (a : α) (ps : List (Piece α)) :
    snocVerbatim c (verbatimUnlessEmpty t ++ .found a :: ps)
      = verbatimUnlessEmpty t ++ .found a :: snocVerbatim c ps := by
  have hfound : snocVerbatim c (.found a :: ps) = .found a :: snocVerbatim c ps := by
    rw [snocVerbatim]
    simp
  cases t with
  | nil => exact hfound
  | cons d t => exact congrArg _ hfound

theorem flatMap_snocVerbatim {write : Piece α → Text} (hwrite : ∀ s, write (.verbatim s) = s)
    (c : Char) (ps : List (Piece α)) :
    (snocVerbatim c ps).flatMap write = ps.flatMap write ++ [c] := by
  fun_induction snocVerbatim c ps with
  | case1 => simp [hwrite]
  | case2 t => simp [hwrite]
  | case3 x ps hne ih => rw [List.flatMap_cons, ih, List.flatMap_cons, List.append_assoc]

/-- A character that ends no match begins and completes none behind a text. -/
theorem match?_append_singleton (hp : p.Recognises source) {c : Char}
    (hc : ∀ a part, source a part → part.getLast? ≠ some c) {t : Text}
    (h : p.match? t = none) : p.match? (t ++ [c]) = none := by
  cases hm : p.match? (t ++ [c]) with
  | none => rfl
  | some x =>
    obtain ⟨part, hpart, he⟩ := (hp _ x.1 x.2).1 hm
    rcases List.eq_nil_or_concat x.2 with hnil | ⟨rest, d, hrest⟩
    · rw [hnil, List.append_nil] at he
      exact absurd (by rw [← he, List.getLast?_concat]) (hc _ _ hpart)
    · rw [hrest, List.concat_eq_append, ← List.append_assoc] at he
      obtain ⟨rfl, -⟩ := List.append_inj' he rfl
      rw [(hp _ x.1 rest).2 ⟨part, hpart, rfl⟩] at h
      cases h

theorem noneIn_append_singleton (hp : p.Recognises source) {c : Char}
    (hc : ∀ a part, source a part → part.getLast? ≠ some c) {t : Text} (h : p.NoneIn t []) :
    p.NoneIn (t ++ [c]) [] := by
  intro s hne hs
  rw [List.append_nil]
  rcases List.suffix_concat_iff.1 hs with rfl | ⟨u, rfl, hu⟩
  · exact absurd rfl hne
  · apply match?_append_singleton hp hc
    by_cases hnil : u = []
    · rw [hnil, match?_nil]
    · have hu' := h u hnil hu
      rwa [List.append_nil] at hu'

/-- A character that ends no match goes to the verbatim end of a text. -/
theorem pieces_append_singleton (hp : p.Recognises source) {c : Char}
    (hc : ∀ a part, source a part → part.getLast? ≠ some c) (t : Text) :
    p.pieces (t ++ [c]) = snocVerbatim c (p.pieces t) := by
  induction t using p.matches_induction with
  | last t hnone =>
    rw [pieces_of_noneIn (noneIn_append_singleton hp hc hnone), pieces_of_noneIn hnone,
      snocVerbatim_verbatimUnlessEmpty]
  | first before s a rest hnone hmatch ih =>
    have hnone' : p.NoneIn before (s ++ [c]) := by
      intro u hne hu
      rw [← List.append_assoc]
      exact match?_append_singleton hp hc (hnone u hne hu)
    rw [List.append_assoc, pieces_of_first hnone' (match?_append hp hmatch [c]), ih,
      pieces_of_first hnone hmatch, snocVerbatim_append_found]

theorem found_append_singleton (hp : p.Recognises source) {c : Char}
    (hc : ∀ a part, source a part → part.getLast? ≠ some c) (t : Text) :
    p.found (t ++ [c]) = p.found t := by
  rw [found, pieces_append_singleton hp hc, found]
  generalize p.pieces t = ps
  fun_induction snocVerbatim c ps with
  | case1 => rfl
  | case2 t => rfl
  | case3 x ps hne ih => cases x <;> simp [ih]

end Pattern

end ProgressTable.Text
