import Mathlib.Tactic
import ProgressTable.Markup.Separator
import ProgressTable.Proofs.Text.Lines

/-!
# Doubling line by line

Each pass of `Separator.double` looks at a character and the two behind it. The equations below say
when a pass takes a single step and when it overwrites; every other fact about the passes follows
from them. A line feed is never part of a match, so a text may be doubled line by line
(`lines_double`), and no match ends with a carriage return, so one at the end of a line changes
nothing before it (`double_append_return`).
-/

namespace ProgressTable.Separator

open Text

/-! ## One step of each pass -/

theorem doubleCarets_match {a : Char} (r : Text) (ha : a ≠ '\n') :
    doubleCarets (a :: '^' :: ':' :: r) = '^' :: '^' :: ':' :: doubleCarets r := by
  rw [doubleCarets, if_neg ha]

/-- A character stays when no `^:` follows it. -/
theorem doubleCarets_cons (a : Char) {r : Text} (h : ∀ r', r ≠ '^' :: ':' :: r') :
    doubleCarets (a :: r) = a :: doubleCarets r := by
  rw [doubleCarets]
  intro r' hr
  exact h r' hr

/-- A line feed stays whatever follows it. -/
theorem doubleCarets_newline (r : Text) :
    doubleCarets ('\n' :: r) = '\n' :: doubleCarets r := by
  by_cases h : ∃ r', r = '^' :: ':' :: r'
  · obtain ⟨r', rfl⟩ := h
    rw [doubleCarets, if_pos rfl]
  · exact doubleCarets_cons '\n' fun r' hr => h ⟨r', hr⟩

theorem doubleBars_match {a b : Char} (r : Text) (ha : a ≠ '\n') (hb : b ≠ '\n')
    (hb' : b ≠ '\r') : doubleBars (a :: '|' :: b :: r) = '|' :: '|' :: doubleBars r := by
  rw [doubleBars, if_neg (by simp [ha, hb, hb'])]

/-- A character stays when no bar inside its line follows it. -/
theorem doubleBars_cons (a : Char) {r : Text}
    (h : ∀ b r', r = '|' :: b :: r' → b = '\n' ∨ b = '\r') :
    doubleBars (a :: r) = a :: doubleBars r := by
  by_cases hr : ∃ b r', r = '|' :: b :: r'
  · obtain ⟨b, r', rfl⟩ := hr
    rw [doubleBars, if_pos (Or.inr (h b r' rfl))]
  · rw [doubleBars]
    intro b r' he
    exact hr ⟨b, r', he⟩

/-- A line feed stays whatever follows it. -/
theorem doubleBars_newline (r : Text) : doubleBars ('\n' :: r) = '\n' :: doubleBars r := by
  by_cases hr : ∃ b r', r = '|' :: b :: r'
  · obtain ⟨b, r', rfl⟩ := hr
    rw [doubleBars, if_pos (Or.inl rfl)]
  · exact doubleBars_cons '\n' fun b r' he => absurd ⟨b, r', he⟩ hr

/-! ## Text without separators -/

/-- Text without a caret stays, if it is not the end of a match that goes on behind it. -/
theorem doubleCarets_append {s r : Text} (hs : '^' ∉ s) (hr : ∀ r', r ≠ '^' :: ':' :: r') :
    doubleCarets (s ++ r) = s ++ doubleCarets r := by
  induction s with
  | nil => rfl
  | cons a s ih =>
    have hno : ∀ r', s ++ r ≠ '^' :: ':' :: r' := by
      cases s with
      | nil => exact hr
      | cons b s =>
        intro r' he
        simp only [List.cons_append, List.cons.injEq] at he
        simp [he.1] at hs
    rw [List.cons_append, doubleCarets_cons a hno, ih (List.not_mem_of_not_mem_cons hs),
      List.cons_append]

/-- Text that nowhere holds `^:` stays, carets and all. -/
theorem doubleCarets_of_not_infix {t : Text} (h : ¬ ['^', ':'] <:+: t) : doubleCarets t = t := by
  induction t with
  | nil => rw [doubleCarets]
  | cons a t ih =>
    have hno : ∀ r', t ≠ '^' :: ':' :: r' := by
      rintro r' rfl
      exact h ⟨[a], r', rfl⟩
    rw [doubleCarets_cons a hno, ih fun ht => h (List.infix_cons ht)]

theorem doubleBars_append {s r : Text} (hs : '|' ∉ s) (hr : r.head? ≠ some '|') :
    doubleBars (s ++ r) = s ++ doubleBars r := by
  induction s with
  | nil => rfl
  | cons a s ih =>
    have hno : ∀ b r', s ++ r = '|' :: b :: r' → b = '\n' ∨ b = '\r' := by
      intro b r' he
      cases s with
      | nil => simp [show r = '|' :: b :: r' from he] at hr
      | cons c s =>
        simp only [List.cons_append, List.cons.injEq] at he
        simp [he.1] at hs
    rw [List.cons_append, doubleBars_cons a hno, ih (List.not_mem_of_not_mem_cons hs),
      List.cons_append]

theorem doubleBars_of_not_mem {t : Text} (h : '|' ∉ t) : doubleBars t = t := by
  have hstep := doubleBars_append (r := []) h (by simp)
  rwa [doubleBars, List.append_nil] at hstep

/-! ## The ends of lines divide both passes -/

/-- What the first pass makes of a text does not depend on what stands behind, if that does not
begin with a character of `^:`. -/
theorem doubleCarets_append_cons {c : Char} (hcaret : c ≠ '^') (hcolon : c ≠ ':') (s r : Text) :
    doubleCarets (s ++ c :: r) = doubleCarets s ++ doubleCarets (c :: r) := by
  induction s using doubleCarets.induct with
  | case1 s ih =>
    rw [List.cons_append, doubleCarets_newline, ih, doubleCarets_newline, List.cons_append]
  | case2 a s ha ih =>
    simp only [List.cons_append]
    rw [doubleCarets_match _ ha, doubleCarets_match _ ha, ih]
    rfl
  | case3 a s hno ih =>
    -- the character is no part of `^:`, so no match begins where there was none
    have hno' : ∀ r', s ++ c :: r ≠ '^' :: ':' :: r' := by
      intro r' he
      rcases s with _ | ⟨x, _ | ⟨y, s⟩⟩
      · exact hcaret (List.cons.inj he).1
      · exact hcolon (List.cons.inj (List.cons.inj he).2).1
      · simp only [List.cons_append, List.cons.injEq] at he
        obtain ⟨rfl, rfl, -⟩ := he
        exact hno s rfl
    rw [List.cons_append, doubleCarets_cons a hno', doubleCarets_cons a hno, ih, List.cons_append]
  | case4 => rw [List.nil_append, doubleCarets.eq_def [], List.nil_append]

/-- The same for the second pass, if what stands behind begins with a line feed or a carriage
return. -/
theorem doubleBars_append_cons {c : Char} (hc : c = '\n' ∨ c = '\r') (s r : Text) :
    doubleBars (s ++ c :: r) = doubleBars s ++ doubleBars (c :: r) := by
  induction s using doubleBars.induct with
  | case1 a b s hab ih =>
    simp only [List.cons_append] at ih ⊢
    rw [doubleBars, if_pos hab, ih, doubleBars, if_pos hab, List.cons_append]
  | case2 a b s hab ih =>
    simp only [not_or] at hab
    simp only [List.cons_append]
    rw [doubleBars_match _ hab.1 hab.2.1 hab.2.2, doubleBars_match _ hab.1 hab.2.1 hab.2.2, ih]
    rfl
  | case3 a s hno ih =>
    -- a bar that ended the text is now followed by the end of a line, which keeps it single
    have hno' : ∀ b r', s ++ c :: r = '|' :: b :: r' → b = '\n' ∨ b = '\r' := by
      intro b r' he
      rcases s with _ | ⟨x, _ | ⟨y, s⟩⟩
      · rw [(List.cons.inj he).1] at hc
        exact absurd hc (by decide)
      · exact (List.cons.inj (List.cons.inj he).2).1 ▸ hc
      · simp only [List.cons_append, List.cons.injEq] at he
        obtain ⟨rfl, rfl, -⟩ := he
        exact absurd rfl (hno y s)
    rw [List.cons_append, doubleBars_cons a hno',
      doubleBars_cons a fun b r' he => absurd he (hno b r'), ih, List.cons_append]
  | case4 => rw [List.nil_append, doubleBars.eq_def [], List.nil_append]

/-! ## Nothing new is written -/

/-- A pass writes only characters that it read. -/
theorem mem_of_mem_doubleCarets {c : Char} (t : Text) (h : c ∈ doubleCarets t) : c ∈ t := by
  induction t using doubleCarets.induct with
  | case1 t ih =>
    rw [doubleCarets_newline, List.mem_cons] at h
    exact List.mem_cons.2 (h.imp_right ih)
  | case2 a t ha ih =>
    rw [doubleCarets_match t ha] at h
    simp only [List.mem_cons] at h ⊢
    tauto
  | case3 a t hno ih =>
    rw [doubleCarets_cons a hno, List.mem_cons] at h
    exact List.mem_cons.2 (h.imp_right ih)
  | case4 => rwa [doubleCarets] at h

/-- The same for the second pass. -/
theorem mem_of_mem_doubleBars {c : Char} (t : Text) (h : c ∈ doubleBars t) : c ∈ t := by
  induction t using doubleBars.induct with
  | case1 a b t hab ih =>
    rw [doubleBars, if_pos hab, List.mem_cons] at h
    exact List.mem_cons.2 (h.imp_right ih)
  | case2 a b t hab ih =>
    rw [doubleBars, if_neg hab] at h
    simp only [List.mem_cons] at h ⊢
    tauto
  | case3 a t hno ih =>
    rw [doubleBars_cons a fun b r' he => absurd he (hno b r'), List.mem_cons] at h
    exact List.mem_cons.2 (h.imp_right ih)
  | case4 => rwa [doubleBars] at h

theorem not_mem_double {c : Char} {t : Text} (h : c ∉ t) : c ∉ double t :=
  fun hc => h (mem_of_mem_doubleCarets t (mem_of_mem_doubleBars _ hc))

/-! ## Line by line -/

theorem double_append_newline (s r : Text) :
    double (s ++ '\n' :: r) = double s ++ '\n' :: double r := by
  rw [double, doubleCarets_append_cons (by decide) (by decide), doubleCarets_newline,
    doubleBars_append_cons (.inl rfl), doubleBars_newline, double, double]

/-- A carriage return at the end of a line stays there. -/
theorem double_append_return (s : Text) : double (s ++ ['\r']) = double s ++ ['\r'] := by
  have hcarets : doubleCarets ['\r'] = ['\r'] := doubleCarets_of_not_infix (by decide)
  have hbars : doubleBars ['\r'] = ['\r'] := doubleBars_of_not_mem (by decide)
  rw [double, doubleCarets_append_cons (by decide) (by decide), hcarets,
    doubleBars_append_cons (.inr rfl), hbars, double]

/-- Doubling a document is doubling each of its lines. -/
theorem double_ofLines {ls : List Text} (hne : ls ≠ []) :
    double (ofLines ls) = ofLines (ls.map double) := by
  induction ls with
  | nil => exact absurd rfl hne
  | cons l ls ih =>
    by_cases hls : ls = []
    · subst hls
      rw [List.map_singleton, ofLines_singleton, ofLines_singleton]
    · have hmap : ls.map double ≠ [] := fun he => hls (List.map_eq_nil_iff.1 he)
      rw [ofLines_cons l hls, double_append_newline, ih hls, List.map_cons, ofLines_cons _ hmap]

theorem lines_double (t : Text) : lines (double t) = (lines t).map double := by
  have hfree := newline_not_mem_of_mem_lines t
  have hdouble : double t = ofLines ((lines t).map double) := by
    rw [← double_ofLines (lines_ne_nil t), ofLines_lines]
  rw [hdouble, lines_ofLines]
  · simpa using lines_ne_nil t
  · intro l hl
    obtain ⟨m, hm, rfl⟩ := List.mem_map.1 hl
    exact not_mem_double (hfree m hm)

end ProgressTable.Separator
