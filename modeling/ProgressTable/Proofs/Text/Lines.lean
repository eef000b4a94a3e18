import Mathlib.Tactic
import ProgressTable.Text.Basic

/-!
# Lines and what they are joined to

`lines` and `ofLines` are inverse to each other on lists of lines: non-empty lists of texts without
a line feed. `ofLines_lines` is one half of this; the other half and the count of line feeds are
here. A text may also end its lines with a carriage return and a line feed (`crlf`), and then all
its lines but the last one are longer by a character.
-/

namespace ProgressTable.Text

/-! ## Joining -/

@[simp] theorem ofLines_singleton (l : Text) : ofLines [l] = l := by
  simp [ofLines, List.intercalate]

theorem ofLines_cons {ls : List Text} (l : Text) (hne : ls ≠ []) :
    ofLines (l :: ls) = l ++ '\n' :: ofLines ls := by
  obtain ⟨m, ms, rfl⟩ := List.exists_cons_of_ne_nil hne
  simp [ofLines, List.intercalate, List.intersperse]

/-- Between any two lines stands one line feed. -/
theorem count_ofLines {ls : List Text} (hne : ls ≠ []) :
    (ofLines ls).count '\n' + 1 = (ls.map fun l => l.count '\n' + 1).sum := by
  induction ls with
  | nil => exact absurd rfl hne
  | cons l ls ih =>
    by_cases hls : ls = []
    · subst hls
      simp
    · rw [ofLines_cons l hls, List.count_append, List.count_cons_self, List.map_cons,
        List.sum_cons, ← ih hls]
      omega

/-- What stands in a line stands in the joined text. -/
theorem mem_ofLines {d : Char} {l : Text} {ls : List Text} (hl : l ∈ ls) (hd : d ∈ l) :
    d ∈ ofLines ls := by
  induction ls with
  | nil => exact absurd hl List.not_mem_nil
  | cons m ls ih =>
    by_cases hls : ls = []
    · subst hls
      rw [List.mem_singleton] at hl
      rwa [ofLines_singleton, ← hl]
    · rw [ofLines_cons m hls, List.mem_append, List.mem_cons]
      rcases List.mem_cons.1 hl with rfl | hl
      · exact .inl hd
      · exact .inr (.inr (ih hl))

/-! ## Splitting -/

/-- A line feed ends a line wherever it stands. -/
theorem lines_append_newline (s r : Text) (h : '\n' ∉ s) :
    lines (s ++ '\n' :: r) = s :: lines r := by
  induction s with
  | nil => rw [List.nil_append, lines, if_pos rfl]
  | cons c s ih =>
    rw [List.mem_cons, not_or] at h
    rw [List.cons_append, lines, if_neg (Ne.symm h.1), ih h.2]

theorem lines_of_not_mem {t : Text} (h : '\n' ∉ t) : lines t = [t] := by
  induction t with
  | nil => rfl
  | cons c t ih =>
    rw [List.mem_cons, not_or] at h
    rw [lines, if_neg (Ne.symm h.1), ih h.2]

theorem lines_ofLines {ls : List Text} (hne : ls ≠ []) (h : ∀ l ∈ ls, '\n' ∉ l) :
    lines (ofLines ls) = ls := by
  induction ls with
  | nil => exact absurd rfl hne
  | cons l ls ih =>
    have hl : '\n' ∉ l := h l List.mem_cons_self
    by_cases hls : ls = []
    · subst hls
      rw [ofLines_singleton, lines_of_not_mem hl]
    · rw [ofLines_cons l hls, lines_append_newline l _ hl,
        ih hls fun m hm => h m (List.mem_cons_of_mem l hm)]

/-- No line holds a line feed. -/
theorem newline_not_mem_of_mem_lines (t : Text) : ∀ l ∈ lines t, '\n' ∉ l := by
  induction t with
  | nil => simp [lines]
  | cons c t ih =>
    unfold lines
    split
    · intro l hl
      rcases List.mem_cons.1 hl with rfl | hl
      · exact List.not_mem_nil
      · exact ih l hl
    · next hc =>
      cases hls : lines t with
      | nil => simpa using Ne.symm hc
      | cons m ms =>
        rw [hls] at ih
        intro l hl
        rcases List.mem_cons.1 hl with rfl | hl
        · rw [List.mem_cons, not_or]
          exact ⟨Ne.symm hc, ih m List.mem_cons_self⟩
        · exact ih l (List.mem_cons_of_mem m hl)

/-- A character that is not in a text is in none of its lines. -/
theorem not_mem_of_mem_lines {d : Char} {t : Text} (h : d ∉ t) : ∀ l ∈ lines t, d ∉ l := by
  intro l hl hd
  rw [← ofLines_lines t] at h
  exact h (mem_ofLines hl hd)

/-! ## Carriage returns -/

/-- The text with a carriage return before each line feed. -/
def crlf (t : Text) : Text := t.flatMap fun c => if c = '\n' then ['\r', '\n'] else [c]

theorem crlf_append (s t : Text) : crlf (s ++ t) = crlf s ++ crlf t := List.flatMap_append

theorem crlf_of_not_mem {t : Text} (h : '\n' ∉ t) : crlf t = t := by
  have hsame : ∀ c ∈ t, (if c = '\n' then ['\r', '\n'] else [c]) = [c] :=
    fun c hc => if_neg fun he : c = '\n' => h (he ▸ hc)
  rw [crlf, List.flatMap_congr hsame, List.flatMap_singleton']

theorem crlf_ofLines {earlier : List Text} {last : Text} (h : ∀ l ∈ earlier ++ [last], '\n' ∉ l) :
    crlf (ofLines (earlier ++ [last])) = ofLines (earlier.map (· ++ ['\r']) ++ [last]) := by
  induction earlier with
  | nil =>
    rw [List.nil_append, ofLines_singleton, crlf_of_not_mem (h last List.mem_cons_self)]
    exact (ofLines_singleton last).symm
  | cons l earlier ih =>
    have hl : '\n' ∉ l := h l List.mem_cons_self
    have hnewline : crlf ['\n'] = ['\r', '\n'] := rfl
    rw [List.cons_append, ofLines_cons l (by simp), List.append_cons, crlf_append, crlf_append,
      crlf_of_not_mem hl, hnewline, ih fun m hm => h m (List.mem_cons_of_mem l hm), List.map_cons,
      List.cons_append, ofLines_cons _ (by simp)]
    simp

/-- Every line but the last one ends with a carriage return then. -/
theorem exists_lines_crlf (t : Text) : ∃ earlier last, lines t = earlier ++ [last]
    ∧ lines (crlf t) = earlier.map (· ++ ['\r']) ++ [last] := by
  have hfree := newline_not_mem_of_mem_lines t
  obtain ⟨earlier, last, hlines⟩ :=
    (List.eq_nil_or_concat' (lines t)).resolve_left (lines_ne_nil t)
  rw [hlines] at hfree
  refine ⟨earlier, last, hlines, ?_⟩
  rw [← ofLines_lines t, hlines, crlf_ofLines hfree]
  apply lines_ofLines (by simp)
  intro l hl
  rcases List.mem_append.1 hl with hl | hl
  · obtain ⟨m, hm, rfl⟩ := List.mem_map.1 hl
    have hm' : '\n' ∉ m := hfree m (List.mem_append_left _ hm)
    simp [hm']
  · exact hfree l (List.mem_append_right _ hl)

end ProgressTable.Text
