import Mathlib.Tactic
import ProgressTable.Proofs.Markup.Html
import ProgressTable.Proofs.Markup.Tag

/-!
# What the HTML of a table tells

From the HTML of a table everything that its lines show can be told again, if no text in them holds
a `<` or a line feed (`table_eq_iff`): the lines, whether a line is text or a row, the style of a
row, and the kind, the width and the text of each cell with the raw text between the cells. What is
not shown cannot be told: where raw text was cut, and what stood in a row that is left out.

A row is read from left to right. Text goes on up to a `<`, and the openings of cells are told apart
by what they begin with (`opening_unique`), so the first cell and what stands behind it are settled
(`fragment_append_inj`). That is the step of the induction on the cells.
-/

namespace ProgressTable

open Html

/-! ## What a line shows -/

namespace Fragment

/-- Whether a fragment is a cell. -/
def isCell : Fragment → Bool
  | raw _ => false
  | _ => true

/-- Raw text in front of other pieces: it is one piece with raw text that comes next, and no piece
if it is empty. -/
def consRaw (t : Text) : List Fragment → List Fragment
  | raw u :: fs => raw (t ++ u) :: fs
  | fs => rawUnlessEmpty t ++ fs

/-- The cells of a row and the raw text between them, with raw texts that stand together put
together and empty ones left out. -/
def pieces : List Fragment → List Fragment
  | [] => []
  | raw t :: fs => consRaw t (pieces fs)
  | f :: fs => f :: pieces fs

end Fragment

/-- What can be seen of a line. -/
inductive Shown where
  | text (t : Text)
  | row (style : RowStyle) (pieces : List Fragment)
deriving Repr, DecidableEq

/-- What a line shows. A row that is left out shows an empty text. -/
def Line.shown (preview : Bool) : Line → Shown
  | .headerRow fs | .groupRow fs => .row .normal (Fragment.pieces fs)
  | .sectionRow r => match sectionStyle? preview r.status r.completion with
    | some style => .row style (Fragment.pieces r.fragments)
    | none => .text []
  | .plain t => .text t

/-! ## Cells and the text behind them -/

namespace Fragment

/-- The raw text before the first cell, and each cell with the raw text behind it. -/
def segments : List Fragment → Text × List (Fragment × Text)
  | [] => ([], [])
  | raw t :: fs => (t ++ (segments fs).1, (segments fs).2)
  | f :: fs => ([], (f, (segments fs).1) :: (segments fs).2)

/-- Cells with the raw text behind them, one piece after the other. -/
def ofSegments (cs : List (Fragment × Text)) : List Fragment :=
  cs.flatMap fun c => c.1 :: rawUnlessEmpty c.2

theorem segments_cell {f : Fragment} (h : f.isCell = true) (fs : List Fragment) :
    segments (f :: fs) = ([], (f, (segments fs).1) :: (segments fs).2) := by
  cases f with
  | raw t => cases h
  | _ => rfl

theorem isCell_of_mem_segments {fs : List Fragment} {c : Fragment × Text}
    (hc : c ∈ (segments fs).2) : c.1.isCell = true := by
  induction fs with
  | nil => cases hc
  | cons f fs ih =>
    cases f with
    | raw t => exact ih hc
    | _ =>
      rcases List.mem_cons.1 hc with rfl | hc
      · rfl
      · exact ih hc

theorem rawUnlessEmpty_append {t u : Text} (h : u ≠ []) :
    rawUnlessEmpty (t ++ u) = [raw (t ++ u)] := by
  obtain ⟨c, r, rfl⟩ := List.exists_cons_of_ne_nil h
  cases t <;> rfl

/-- The pieces of a row are its cells, each with the raw text behind it. -/
theorem pieces_eq (fs : List Fragment) :
    pieces fs = rawUnlessEmpty (segments fs).1 ++ ofSegments (segments fs).2 := by
  induction fs with
  | nil => rfl
  | cons f fs ih =>
    cases f with
    | raw t =>
      rw [pieces, segments, ih]
      by_cases hempty : (segments fs).1 = []
      · -- what comes next is a cell, if anything does
        rw [hempty, List.append_nil]
        cases hcells : (segments fs).2 with
        | nil => rfl
        | cons c cs =>
          have hmem : c ∈ (segments fs).2 := by
            rw [hcells]
            exact List.mem_cons_self
          have hcell : c.1.isCell = true := isCell_of_mem_segments hmem
          obtain ⟨f, u⟩ := c
          cases f with
          | raw u => cases hcell
          | _ => rfl
      · rw [rawUnlessEmpty_append hempty]
        obtain ⟨c, r, hcons⟩ := List.exists_cons_of_ne_nil hempty
        rw [hcons]
        rfl
    | _ =>
      rw [segments_cell rfl, ← List.nil_append (pieces _)]
      exact congrArg (_ :: ·) ih

/-- A character that is in no text of a row is in no piece of text between its cells. -/
theorem not_mem_segments {d : Char} {fs : List Fragment} (h : ∀ f ∈ fs, d ∉ f.text) :
    d ∉ (segments fs).1 ∧ ∀ c ∈ (segments fs).2, d ∉ c.1.text ∧ d ∉ c.2 := by
  induction fs with
  | nil => simp [segments]
  | cons f fs ih =>
    obtain ⟨hf, hfs⟩ := List.forall_mem_cons.1 h
    obtain ⟨hlead, hcells⟩ := ih hfs
    cases f with
    | raw t =>
      refine ⟨fun hm => ?_, hcells⟩
      rcases List.mem_append.1 hm with hm | hm
      · exact hf hm
      · exact hlead hm
    | _ => exact ⟨List.not_mem_nil, List.forall_mem_cons.2 ⟨⟨hf, hlead⟩, hcells⟩⟩

end Fragment

/-! ## Cells in HTML -/

namespace Html

open Fragment

/-- Text goes on up to the next tag. -/
theorem append_tag_inj {t t' r r' : Text} (ht : '<' ∉ t) (ht' : '<' ∉ t')
    (h : t ++ '<' :: r = t' ++ '<' :: r') : t = t' ∧ r = r' := by
  have htext := congrArg (List.takeWhile (· ≠ '<')) h
  rw [Text.takeWhile_ne_append r ht, Text.takeWhile_ne_append r' ht'] at htext
  subst htext
  exact ⟨rfl, (List.cons.inj (List.append_cancel_left h)).2⟩

/-- What stands before the text of a cell. -/
def opening : Fragment → Text
  | .headerCell w _ => headerOpen ++ Numeral.ofNat w.toNat ++ headerMiddle
  | .groupCell _ => groupOpen
  | .sectionCell _ => sectionOpen
  | .raw _ => []

/-- What stands behind the text of a cell. -/
def closing : Fragment → Text
  | .headerCell _ _ => headerClose
  | .groupCell _ | .sectionCell _ => cellClose
  | .raw _ => []

theorem fragment_eq (f : Fragment) : fragment f = opening f ++ f.text ++ closing f := by
  cases f with
  | raw t => exact (List.append_nil t).symm
  | _ => rfl

theorem exists_rowClose_eq : ∃ r, rowClose = '<' :: '/' :: r := ⟨_, String.toList_ofList⟩

variable {f f' : Fragment} {x y : Text}

/-- A cell begins like this, and the end of a row does not. -/
theorem exists_opening_eq (h : f.isCell = true) : ∃ r, opening f = '<' :: 't' :: r := by
  cases f with
  | raw t => cases h
  | headerCell w t =>
    obtain ⟨r, hr⟩ : ∃ r, headerOpen = '<' :: 't' :: r := ⟨_, String.toList_ofList⟩
    exact ⟨r ++ Numeral.ofNat w.toNat ++ headerMiddle, by rw [opening, hr]; rfl⟩
  | _ => exact ⟨_, String.toList_ofList⟩

theorem exists_closing_eq (h : f.isCell = true) : ∃ r, closing f = '<' :: r := by
  cases f with
  | raw t => cases h
  | _ => exact ⟨_, String.toList_ofList⟩

/-- The width of a header cell ends where the percent sign stands. -/
theorem headerOpening_inj {w w' : UInt32}
    (h : headerOpen ++ Numeral.ofNat w.toNat ++ headerMiddle ++ x
      = headerOpen ++ Numeral.ofNat w'.toNat ++ headerMiddle ++ y) : w = w' := by
  obtain ⟨m, hm⟩ : ∃ m, headerMiddle = '%' :: m := ⟨_, String.toList_ofList⟩
  have hdigits (n : Nat) : '%' ∉ Numeral.ofNat n := fun hmem =>
    absurd (Numeral.isDigit_of_mem_ofNat n _ hmem) (by decide)
  simp only [List.append_assoc, hm, List.cons_append, List.append_cancel_left_eq] at h
  have hwidth := congrArg (List.takeWhile (· ≠ '%')) h
  rw [Text.takeWhile_ne_append _ (hdigits _), Text.takeWhile_ne_append _ (hdigits _)] at hwidth
  exact UInt32.toNat_inj.1 (Numeral.ofNat_injective hwidth)

/-- Header cells have a tag of their own. -/
theorem headerOpen_append_ne (x y : Text) :
    headerOpen ++ x ≠ groupOpen ++ y ∧ headerOpen ++ x ≠ sectionOpen ++ y := by
  obtain ⟨r, hheader⟩ : ∃ r, headerOpen = '<' :: 't' :: 'h' :: r := ⟨_, String.toList_ofList⟩
  obtain ⟨r', hgroup⟩ : ∃ r, groupOpen = '<' :: 't' :: 'd' :: r := ⟨_, String.toList_ofList⟩
  obtain ⟨r'', hsection⟩ : ∃ r, sectionOpen = '<' :: 't' :: 'd' :: r := ⟨_, String.toList_ofList⟩
  rw [hheader, hgroup, hsection]
  simp

/-- The cells of groups and sections are aligned differently. -/
theorem groupOpen_append_ne (x y : Text) : groupOpen ++ x ≠ sectionOpen ++ y := by
  obtain ⟨s, r, r', hgroup, hsection⟩ :
      ∃ s r r', groupOpen = s ++ 'c' :: r ∧ sectionOpen = s ++ 'l' :: r' :=
    ⟨"<td style=\"word-wrap: break-word; text-align: ".toList,
      "enter\" colspan=\"3\" >".toList, "eft\">   ".toList, by decide +kernel, by decide +kernel⟩
  rw [hgroup, hsection, List.append_assoc, List.append_assoc]
  intro h
  have hchar := (List.cons.inj (List.append_cancel_left h)).1
  exact absurd hchar (by decide)

/-- No opening of a cell begins with another one, and it tells all of the cell but its text. -/
theorem opening_unique (hf : f.isCell = true) (hf' : f'.isCell = true)
    (h : opening f ++ x = opening f' ++ y) : f' = f.withText f'.text := by
  cases f with
  | raw t => cases hf
  | headerCell w t =>
    cases f' with
    | raw t' => cases hf'
    | headerCell w' t' =>
      rw [headerOpening_inj h]
      rfl
    | groupCell t' =>
      rw [opening, List.append_assoc, List.append_assoc] at h
      exact absurd h (headerOpen_append_ne _ _).1
    | sectionCell t' =>
      rw [opening, List.append_assoc, List.append_assoc] at h
      exact absurd h (headerOpen_append_ne _ _).2
  | groupCell t =>
    cases f' with
    | raw t' => cases hf'
    | headerCell w' t' =>
      rw [opening, opening, List.append_assoc, List.append_assoc] at h
      exact absurd h.symm (headerOpen_append_ne _ _).1
    | groupCell t' => rfl
    | sectionCell t' => exact absurd h (groupOpen_append_ne _ _)
  | sectionCell t =>
    cases f' with
    | raw t' => cases hf'
    | headerCell w' t' =>
      rw [opening, opening, List.append_assoc, List.append_assoc] at h
      exact absurd h.symm (headerOpen_append_ne _ _).2
    | groupCell t' => exact absurd h.symm (groupOpen_append_ne _ _)
    | sectionCell t' => rfl

/-- The first cell is told by the HTML, and so is what stands behind it. -/
theorem fragment_append_inj (hf : f.isCell = true) (hf' : f'.isCell = true) (ht : '<' ∉ f.text)
    (ht' : '<' ∉ f'.text) (h : fragment f ++ x = fragment f' ++ y) : f = f' ∧ x = y := by
  rw [fragment_eq, fragment_eq, List.append_assoc, List.append_assoc, List.append_assoc,
    List.append_assoc] at h
  have hkind := opening_unique hf hf' h
  -- the two cells can differ in their texts only, and these end where the closing begins
  have htemplate : opening f' = opening f ∧ closing f' = closing f := by
    rw [hkind]
    cases f <;> exact ⟨rfl, rfl⟩
  obtain ⟨c, hc⟩ := exists_closing_eq hf
  rw [htemplate.1, htemplate.2, hc] at h
  obtain ⟨htext, hrest⟩ := append_tag_inj ht ht' (List.append_cancel_left h)
  rw [← htext] at hkind
  refine ⟨?_, List.append_cancel_left hrest⟩
  rw [hkind]
  cases f <;> rfl

/-! ## Rows in HTML -/

/-- The HTML of the fragments of a row. -/
def inner (fs : List Fragment) : Text := (fs.map fragment).flatten

/-- The HTML of cells with the raw text behind them, and the end of the row. -/
def cellsToEnd (cs : List (Fragment × Text)) : Text :=
  (cs.flatMap fun c => fragment c.1 ++ c.2) ++ rowClose

theorem row_eq (style : RowStyle) (fs : List Fragment) :
    row style fs = style.openTag ++ (inner fs ++ rowClose) :=
  List.append_assoc _ _ _

theorem inner_cons (f : Fragment) (fs : List Fragment) :
    inner (f :: fs) = fragment f ++ inner fs := rfl

theorem inner_append (fs gs : List Fragment) : inner (fs ++ gs) = inner fs ++ inner gs := by
  rw [inner, List.map_append, List.flatten_append]
  rfl

theorem inner_rawUnlessEmpty (t : Text) : inner (rawUnlessEmpty t) = t := by
  cases t with
  | nil => rfl
  | cons c r => exact List.append_nil (c :: r)

theorem inner_consRaw (t : Text) (fs : List Fragment) : inner (consRaw t fs) = t ++ inner fs := by
  cases fs with
  | nil =>
    show inner (rawUnlessEmpty t ++ []) = _
    rw [inner_append, inner_rawUnlessEmpty]
  | cons f fs =>
    cases f with
    | raw u => exact List.append_assoc t u _
    | _ =>
      show inner (rawUnlessEmpty t ++ _) = _
      rw [inner_append, inner_rawUnlessEmpty]

/-- The pieces of a row are written like its fragments. -/
theorem inner_pieces (fs : List Fragment) : inner (pieces fs) = inner fs := by
  induction fs with
  | nil => rfl
  | cons f fs ih =>
    cases f with
    | raw t => rw [pieces, inner_consRaw, ih, inner_cons, fragment]
    | _ => exact congrArg (fragment _ ++ ·) ih

theorem inner_segments (fs : List Fragment) :
    inner fs ++ rowClose = (segments fs).1 ++ cellsToEnd (segments fs).2 := by
  induction fs with
  | nil => rfl
  | cons f fs ih =>
    rw [inner_cons, List.append_assoc, ih]
    cases f with
    | raw t => exact (List.append_assoc t _ _).symm
    | _ =>
      rw [segments_cell rfl, List.nil_append, cellsToEnd, cellsToEnd, List.flatMap_cons]
      simp only [List.append_assoc]

/-- What comes behind raw text begins with a tag. -/
theorem exists_cellsToEnd_eq {cs : List (Fragment × Text)} (h : ∀ c ∈ cs, c.1.isCell = true) :
    ∃ r, cellsToEnd cs = '<' :: r := by
  cases cs with
  | nil =>
    obtain ⟨r, hr⟩ := exists_rowClose_eq
    exact ⟨_, hr⟩
  | cons c cs =>
    obtain ⟨r, hr⟩ := exists_opening_eq (h c List.mem_cons_self)
    rw [cellsToEnd, List.flatMap_cons, fragment_eq, hr]
    exact ⟨_, rfl⟩

/-- A row ends where no cell begins. -/
theorem fragment_append_ne_rowClose (hf : f.isCell = true) (x : Text) :
    fragment f ++ x ≠ rowClose := by
  obtain ⟨r, hr⟩ := exists_opening_eq hf
  obtain ⟨r', hr'⟩ := exists_rowClose_eq
  rw [fragment_eq, hr, hr']
  simp

/-- Raw text goes on up to the first cell or the end of the row. -/
theorem lead_inj {lead lead' : Text} {cs cs' : List (Fragment × Text)}
    (hcs : ∀ c ∈ cs, c.1.isCell = true) (hcs' : ∀ c ∈ cs', c.1.isCell = true)
    (hlead : '<' ∉ lead) (hlead' : '<' ∉ lead')
    (h : lead ++ cellsToEnd cs = lead' ++ cellsToEnd cs') :
    lead = lead' ∧ cellsToEnd cs = cellsToEnd cs' := by
  obtain ⟨r, hr⟩ := exists_cellsToEnd_eq hcs
  obtain ⟨r', hr'⟩ := exists_cellsToEnd_eq hcs'
  rw [hr, hr'] at h ⊢
  obtain ⟨htext, hrest⟩ := append_tag_inj hlead hlead' h
  exact ⟨htext, congrArg _ hrest⟩

theorem cellsToEnd_cons (c : Fragment × Text) (cs : List (Fragment × Text)) :
    cellsToEnd (c :: cs) = fragment c.1 ++ (c.2 ++ cellsToEnd cs) := by
  rw [cellsToEnd, cellsToEnd, List.flatMap_cons]
  simp only [List.append_assoc]

/-- Cells and the raw text behind them are told by their HTML. -/
theorem cellsToEnd_inj {cs cs' : List (Fragment × Text)}
    (hcs : ∀ c ∈ cs, c.1.isCell = true) (hcs' : ∀ c ∈ cs', c.1.isCell = true)
    (ht : ∀ c ∈ cs, '<' ∉ c.1.text ∧ '<' ∉ c.2) (ht' : ∀ c ∈ cs', '<' ∉ c.1.text ∧ '<' ∉ c.2)
    (h : cellsToEnd cs = cellsToEnd cs') : cs = cs' := by
  -- along the cells: the first one is told, then the raw text behind it
  induction cs generalizing cs' with
  | nil =>
    cases cs' with
    | nil => rfl
    | cons c' cs' =>
      rw [cellsToEnd_cons] at h
      exact absurd h.symm (fragment_append_ne_rowClose (hcs' c' List.mem_cons_self) _)
  | cons c cs ih =>
    cases cs' with
    | nil =>
      rw [cellsToEnd_cons] at h
      exact absurd h (fragment_append_ne_rowClose (hcs c List.mem_cons_self) _)
    | cons c' cs' =>
      obtain ⟨hc, hcs⟩ := List.forall_mem_cons.1 hcs
      obtain ⟨hc', hcs'⟩ := List.forall_mem_cons.1 hcs'
      obtain ⟨htc, ht⟩ := List.forall_mem_cons.1 ht
      obtain ⟨htc', ht'⟩ := List.forall_mem_cons.1 ht'
      rw [cellsToEnd_cons, cellsToEnd_cons] at h
      obtain ⟨hcell, hbehind⟩ := fragment_append_inj hc hc' htc.1 htc'.1 h
      obtain ⟨hraw, hmore⟩ := lead_inj hcs hcs' htc.2 htc'.2 hbehind
      rw [Prod.ext hcell hraw, ih hcs hcs' ht ht' hmore]

/-- A row is told by its HTML, up to the cuts in raw text. -/
theorem row_eq_iff {style style' : RowStyle} {fs fs' : List Fragment}
    (h : ∀ f ∈ fs, '<' ∉ f.text) (h' : ∀ f ∈ fs', '<' ∉ f.text) :
    row style fs = row style' fs' ↔ style = style' ∧ pieces fs = pieces fs' := by
  rw [row_eq, row_eq]
  constructor
  · intro heq
    -- the opening of a row is a tag, and so is the same for both
    have htag := congrArg tag? heq
    rw [tag?_append (tag?_openTag style), tag?_append (tag?_openTag style'), Option.some_inj,
      Prod.mk.injEq] at htag
    obtain ⟨hopen, hinner⟩ := htag
    refine ⟨openTag_inj hopen, ?_⟩
    rw [List.nil_append, List.nil_append, inner_segments, inner_segments] at hinner
    obtain ⟨hlead, hcells⟩ := lead_inj (fun c => isCell_of_mem_segments)
      (fun c => isCell_of_mem_segments) (not_mem_segments h).1 (not_mem_segments h').1 hinner
    rw [pieces_eq, pieces_eq, hlead, cellsToEnd_inj (fun c => isCell_of_mem_segments)
      (fun c => isCell_of_mem_segments) (not_mem_segments h).2 (not_mem_segments h').2 hcells]
  · rintro ⟨rfl, hpieces⟩
    rw [← inner_pieces fs, hpieces, inner_pieces]

/-! ## Lines in HTML -/

/-- A line is text without a `<`, or a row without one in its texts. -/
theorem line_text_or_row (preview : Bool) {l : Line} (h : ∀ t ∈ l.texts, '<' ∉ t) :
    (∃ t, l.shown preview = .text t ∧ line preview l = t ∧ '<' ∉ t)
    ∨ ∃ style fs, l.shown preview = .row style (pieces fs) ∧ line preview l = row style fs
      ∧ ∀ f ∈ fs, '<' ∉ f.text := by
  have htexts {fs : List Fragment} (hfs : ∀ t ∈ fs.map Fragment.text, '<' ∉ t) :
      ∀ f ∈ fs, '<' ∉ f.text := fun f hf => hfs f.text (List.mem_map_of_mem hf)
  cases l with
  | headerRow fs => exact .inr ⟨.normal, fs, rfl, rfl, htexts h⟩
  | groupRow fs => exact .inr ⟨.normal, fs, rfl, rfl, htexts h⟩
  | sectionRow r =>
    rw [Line.shown, line]
    cases sectionStyle? preview r.status r.completion with
    | none => exact .inl ⟨[], rfl, rfl, List.not_mem_nil⟩
    | some style => exact .inr ⟨style, r.fragments, rfl, rfl, htexts h⟩
  | plain t => exact .inl ⟨t, rfl, rfl, h t List.mem_cons_self⟩

/-- A row is no text without a `<`. -/
theorem row_ne_of_not_mem {t : Text} (h : '<' ∉ t) (style : RowStyle) (fs : List Fragment) :
    row style fs ≠ t := by
  rintro rfl
  have hopen : '<' ∈ style.openTag := by
    obtain ⟨s, -, hs, -⟩ := eq_of_tag? (tag?_openTag style)
    rw [hs]
    exact List.mem_cons_self
  rw [row_eq] at h
  exact h (List.mem_append_left _ hopen)

/-- A line is told by its HTML as far as it is shown. -/
theorem line_eq_iff {preview preview' : Bool} {l l' : Line} (h : ∀ t ∈ l.texts, '<' ∉ t)
    (h' : ∀ t ∈ l'.texts, '<' ∉ t) :
    line preview l = line preview' l' ↔ l.shown preview = l'.shown preview' := by
  rcases line_text_or_row preview h with
    ⟨t, hshown, hline, ht⟩ | ⟨style, fs, hshown, hline, hfs⟩ <;>
  rcases line_text_or_row preview' h' with
    ⟨t', hshown', hline', ht'⟩ | ⟨style', fs', hshown', hline', hfs'⟩ <;>
  rw [hshown, hshown', hline, hline']
  · rw [Shown.text.injEq]
  · exact iff_of_false (row_ne_of_not_mem ht style' fs').symm (by simp)
  · exact iff_of_false (row_ne_of_not_mem ht' style fs) (by simp)
  · rw [row_eq_iff hfs hfs', Shown.row.injEq]

/-! ## Tables in HTML -/

section Tables

variable {preview preview' : Bool} {ls ls' : List Line}

theorem map_line_eq_iff (h : ∀ l ∈ ls, ∀ t ∈ l.texts, '<' ∉ t)
    (h' : ∀ l ∈ ls', ∀ t ∈ l.texts, '<' ∉ t) :
    ls.map (line preview) = ls'.map (line preview')
      ↔ ls.map (Line.shown preview) = ls'.map (Line.shown preview') := by
  induction ls generalizing ls' with
  | nil => cases ls' <;> simp
  | cons l ls ih =>
    cases ls' with
    | nil => simp
    | cons l' ls' =>
      obtain ⟨hl, hls⟩ := List.forall_mem_cons.1 h
      obtain ⟨hl', hls'⟩ := List.forall_mem_cons.1 h'
      rw [List.map_cons, List.map_cons, List.map_cons, List.map_cons, List.cons.injEq,
        List.cons.injEq, line_eq_iff hl hl', ih hls hls']

/-- The lines of a table are the lines of its HTML. -/
theorem lines_inside_table (hne : ls ≠ []) (h : ∀ l ∈ ls, ∀ t ∈ l.texts, '\n' ∉ t) :
    Text.lines (inside (table preview ls)) = ls.map (line preview) := by
  rw [table, inside_append, body]
  apply Text.lines_ofLines
  · simpa using hne
  · intro t ht
    obtain ⟨l, hl, rfl⟩ := List.mem_map.1 ht
    exact newline_not_mem_line (h l hl)

theorem table_eq_iff_lines (hne : ls ≠ []) (hne' : ls' ≠ [])
    (h : ∀ l ∈ ls, ∀ t ∈ l.texts, '\n' ∉ t) (h' : ∀ l ∈ ls', ∀ t ∈ l.texts, '\n' ∉ t) :
    table preview ls = table preview' ls' ↔ ls.map (line preview) = ls'.map (line preview') := by
  constructor
  · intro htable
    rw [← lines_inside_table hne h, htable, lines_inside_table hne' h']
  · intro hlines
    rw [table, table, body, body, hlines]

end Tables

/-- Two tables of at least one line, without a `<` or a line feed in their texts, are written alike
if and only if they have as many lines and each line shows what the one in its place shows: the same
text, or a row of the same style with the same cells and the same raw text between them. -/
theorem table_eq_iff {ls ls' : List Line} (hne : ls ≠ []) (hne' : ls' ≠ [])
    (h : ∀ l ∈ ls ++ ls', ∀ t ∈ l.texts, '<' ∉ t ∧ '\n' ∉ t) (preview preview' : Bool) :
    table preview ls = table preview' ls'
      ↔ ls.map (Line.shown preview) = ls'.map (Line.shown preview') := by
  have hleft : ∀ l ∈ ls, ∀ t ∈ l.texts, '<' ∉ t ∧ '\n' ∉ t :=
    fun l hl => h l (List.mem_append_left _ hl)
  have hright : ∀ l ∈ ls', ∀ t ∈ l.texts, '<' ∉ t ∧ '\n' ∉ t :=
    fun l hl => h l (List.mem_append_right _ hl)
  rw [table_eq_iff_lines hne hne' (fun l hl t ht => (hleft l hl t ht).2)
      (fun l hl t ht => (hright l hl t ht).2),
    map_line_eq_iff (fun l hl t ht => (hleft l hl t ht).1) fun l hl t ht => (hright l hl t ht).1]

/-- Raw text is shown as one piece however it was cut, blanks in front of the text of a cell are
part of it, and a row that is left out is like an empty line. -/
theorem table_eq_iff_cut :
    let hidden : SectionRow := ⟨"Week 2".toList, [.sectionCell "Week 2".toList], .hidden, none⟩
    let visible (fs : List Fragment) : Line := .sectionRow ⟨"Week 1".toList, fs, .visible, none⟩
    let ls := [visible [.raw "a".toList, .raw [], .raw "b>".toList, .sectionCell "1".toList],
      .sectionRow hidden]
    let same := [.groupRow [.raw "ab>".toList, .sectionCell "1".toList], .plain []]
    let other := [visible [.raw "ab>".toList, .sectionCell " 1".toList], .plain []]
    table false ls = table false same ∧ table false ls ≠ table false other := by
  intro hidden visible ls same other
  refine ⟨?_, ?_⟩
  · rw [table_eq_iff (by simp [ls]) (by simp [same]) (by decide)]
    decide
  · rw [ne_eq, table_eq_iff (by simp [ls]) (by simp [other]) (by decide)]
    decide

end Html
end ProgressTable
