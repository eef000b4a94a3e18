import Mathlib.Tactic
import ProgressTable.Lookup.Store
import ProgressTable.Proofs.Markup.Document
import ProgressTable.Proofs.Text.Blank

/-!
# Rows as authors write them

An author writes one separator between two cells, `^:30:Name ^:30:Done ^` or `| Week 1 | x |`, and
what is read is a row with these cells. Here a row is given by its cells (`AuthoredRow`), written
as the author writes it (`AuthoredRow.text`), and compared with the line it stands for
(`AuthoredRow.line`). The main statement is `read_authoredRows`: a document of such rows is read as
just these lines.

Doubling turns the row into its cells with a separator on both sides of each
(`doubleCarets_headerText`, `doubleBars_sectionText`), and such a text is cut at every cell
(`Pattern.pieces_flatMap`). The cells of a header row and of a section's row are therefore followed
through one induction along the cells each; a blank next to a separator that stays single becomes
part of its cell.
-/

namespace ProgressTable

open Text

/-! ## Writing rows -/

/-- A row by its cells, or another line by its text. -/
inductive AuthoredRow where
  /-- Headings with their widths. -/
  | header (cells : List (UInt32 × Text))
  | group (titles : List Text)
  /-- The cells in the row of a section, its label first. -/
  | course (cells : List Text)
  | other (text : Text)
deriving DecidableEq

/-- The list with a function applied to its last item. -/
def onLast {α : Type} (f : α → α) : List α → List α
  | [] => []
  | [a] => [f a]
  | a :: b :: r => a :: onLast f (b :: r)

namespace AuthoredRow

/-- The two characters before a heading. -/
def caretColon : Text := ['^', ':']

/-- A heading and the blank behind it. -/
def headingText (c : UInt32 × Text) : Text :=
  caretColon ++ Numeral.ofNat c.1.toNat ++ ':' :: c.2 ++ [' ']

/-- A cell between blanks, and the bar behind it. -/
def cellText (t : Text) : Text := ' ' :: t ++ [' ', '|']

/-- The row as an author writes it: `^:w:t ^:w:t ^`, `#t##t#` or `| t | t |`. -/
def text : AuthoredRow → Text
  | header cells => cells.flatMap headingText ++ ['^']
  | group titles => titles.flatMap fun t => '#' :: t ++ ['#']
  | course cells => '|' :: cells.flatMap cellText
  | other t => t

/-- The headings that are read: the last one keeps the blank before the closing caret. -/
def headings (cells : List (UInt32 × Text)) : List (UInt32 × Text) :=
  onLast (fun c => (c.1, c.2 ++ [' '])) cells

/-- The cells that are read: the first keeps the blank before it, the last the blank behind it. -/
def paddedCells (cells : List Text) : List Text :=
  onLast (· ++ [' ']) (cells.modifyHead (' ' :: ·))

/-- The line that the row stands for. The status of a section is what its course says. -/
def line (backend : Backend) (id : CourseId) : AuthoredRow → Line
  | header cells => .headerRow ((headings cells).map fun c => .headerCell c.1 c.2)
  | group titles => .groupRow (titles.map .groupCell)
  | course cells =>
    let label := trim (cells.headD [])
    .sectionRow
      { label
        fragments := (paddedCells cells).map .sectionCell
        status := (Document.askStatus backend id label).value
        completion := none }
  | other t => .plain t

/-- Whether the row can be told from its text: it has a cell, no text holds a separator of its row
or a line feed, and a cell between two others is not empty. -/
def WellFormed : AuthoredRow → Prop
  | header cells => cells ≠ []
    ∧ (∀ c ∈ cells, '^' ∉ c.2 ∧ '|' ∉ c.2 ∧ '\n' ∉ c.2) ∧ ∀ c ∈ cells.dropLast, c.2 ≠ []
  | group titles => titles ≠ []
    ∧ ∀ t ∈ titles, t ≠ [] ∧ '#' ∉ t ∧ '|' ∉ t ∧ '\n' ∉ t ∧ ¬ caretColon <:+: t
  | course cells => cells ≠ []
    ∧ (∀ c ∈ cells, '|' ∉ c ∧ '\n' ∉ c ∧ ¬ caretColon <:+: c) ∧ ∀ c ∈ cells.tail.dropLast, c ≠ []
  | other t => '|' ∉ t ∧ '\n' ∉ t ∧ ¬ caretColon <:+: t
    ∧ t.head? ≠ some '^' ∧ t.head? ≠ some '#'

instance : DecidablePred WellFormed
  | header _ => by dsimp only [WellFormed]; infer_instance
  | group _ => by dsimp only [WellFormed]; infer_instance
  | course _ => by dsimp only [WellFormed]; infer_instance
  | other _ => by dsimp only [WellFormed]; infer_instance

end AuthoredRow

/-! ## The last item of a list -/

section OnLast

variable {α : Type} {f : α → α}

theorem onLast_cons (a : α) {l : List α} (hne : l ≠ []) : onLast f (a :: l) = a :: onLast f l := by
  obtain ⟨b, r, rfl⟩ := List.exists_cons_of_ne_nil hne
  rfl

theorem onLast_ne_nil {l : List α} (hne : l ≠ []) : onLast f l ≠ [] := by
  obtain ⟨a, r, rfl⟩ := List.exists_cons_of_ne_nil hne
  cases r <;> simp [onLast]

/-- A property of the items before the last one and of what becomes of the last one. -/
theorem forall_mem_onLast {P : α → Prop} {l : List α} (hinit : ∀ a ∈ l.dropLast, P a)
    (hlast : ∀ a ∈ l, P (f a)) : ∀ a ∈ onLast f l, P a := by
  induction l with
  | nil => simp [onLast]
  | cons b l ih =>
    by_cases hl : l = []
    · subst hl
      simpa [onLast] using hlast b List.mem_cons_self
    · rw [onLast_cons b hl]
      rw [List.dropLast_cons_of_ne_nil hl] at hinit
      intro a ha
      rcases List.mem_cons.1 ha with rfl | ha
      · exact hinit a List.mem_cons_self
      · exact ih (fun c hc => hinit c (List.mem_cons_of_mem b hc))
          (fun c hc => hlast c (List.mem_cons_of_mem b hc)) a ha

end OnLast

/-! ## Words in joined texts -/

/-- A word without `c` that stands in a text around `c` stands on one side of it. -/
theorem not_infix_append_cons {w s r : Text} {c : Char} (hc : c ∉ w) (hs : ¬ w <:+: s)
    (hr : ¬ w <:+: r) : ¬ w <:+: s ++ c :: r := by
  induction s with
  | nil =>
    intro h
    rcases List.infix_cons_iff.1 h with hw | hw
    · rcases List.prefix_cons_iff.1 hw with rfl | ⟨w', rfl, -⟩
      · exact hs (List.infix_refl [])
      · exact hc List.mem_cons_self
    · exact hr hw
  | cons a s ih =>
    intro h
    rcases List.infix_cons_iff.1 h with hw | hw
    · -- a word at the front that reached `c` would hold it
      have hfront : (a :: s) ++ [c] <+: a :: (s ++ c :: r) := ⟨r, by simp⟩
      rcases List.prefix_or_prefix_of_prefix hw hfront with hp | hp
      · rcases List.prefix_concat_iff.1 hp with rfl | hp
        · exact hc (by simp)
        · exact hs hp.isInfix
      · exact hc (hp.subset (by simp))
    · exact ih (fun hi => hs (List.infix_cons hi)) hw

namespace AuthoredRow

/-! ## Doubling a row -/

/-- A heading between two carets, as it stands in a doubled row. -/
def closedHeading (c : UInt32 × Text) : Text :=
  caretColon ++ Numeral.ofNat c.1.toNat ++ ':' :: c.2 ++ ['^']

/-- A text between two delimiters. -/
def delimited (d : Char) (t : Text) : Text := d :: t ++ [d]

/-- Before its closing blank a heading holds no caret but its first one. -/
theorem caret_not_mem_heading {c : UInt32 × Text} (h : '^' ∉ c.2) :
    '^' ∉ Numeral.ofNat c.1.toNat ++ ':' :: c.2 := by
  intro hm
  rcases List.mem_append.1 hm with hm | hm
  · exact absurd (Numeral.isDigit_of_mem_ofNat _ _ hm) (by decide)
  · exact h (by simpa using hm)

/-- The first pass closes each heading by a caret of its own. -/
theorem doubleCarets_headerText {cells : List (UInt32 × Text)} (hne : cells ≠ [])
    (h : ∀ c ∈ cells, '^' ∉ c.2) :
    Separator.doubleCarets (header cells).text = (headings cells).flatMap closedHeading := by
  -- the opening `^:` of the row has nothing before it and stays
  suffices hbody : ∀ c (l : List (UInt32 × Text)), (∀ x ∈ c :: l, '^' ∉ x.2) →
      caretColon ++ Separator.doubleCarets
        (Numeral.ofNat c.1.toNat ++ ':' :: c.2 ++ ' ' :: (header l).text)
      = (headings (c :: l)).flatMap closedHeading by
    obtain ⟨c, l, rfl⟩ := List.exists_cons_of_ne_nil hne
    rw [← hbody c l h]
    obtain ⟨d, r, hd, hdigit, -⟩ := Numeral.exists_ofNat_eq_cons c.1.toNat
    have hcaret : d ≠ '^' := by rintro rfl; exact absurd hdigit (by decide)
    simp only [text, headingText, caretColon, List.flatMap_cons, List.cons_append,
      List.append_assoc, List.nil_append, hd]
    rw [Separator.doubleCarets_cons, Separator.doubleCarets_cons]
    · intro r' he
      exact hcaret (List.cons.inj he).1
    · intro r' he
      exact absurd (List.cons.inj he).1 (by decide)
  intro c l
  induction l generalizing c with
  | nil =>
    intro hc
    have hfree := caret_not_mem_heading (hc c List.mem_cons_self)
    rw [Separator.doubleCarets_append hfree (by simp [text])]
    simp [text, headings, onLast, closedHeading, Separator.doubleCarets]
  | cons c' l ih =>
    intro hc
    have hfree := caret_not_mem_heading (hc c List.mem_cons_self)
    have ih' := ih c' fun x hx => hc x (List.mem_cons_of_mem c hx)
    have hsplit : (header (c' :: l)).text = '^' :: ':' ::
        (Numeral.ofNat c'.1.toNat ++ ':' :: c'.2 ++ ' ' :: (header l).text) := by
      simp [text, headingText, caretColon]
    rw [Separator.doubleCarets_append hfree (by simp), hsplit,
      Separator.doubleCarets_match _ (by decide), headings, onLast_cons c (by simp),
      List.flatMap_cons, ← headings, ← ih']
    simp [closedHeading, caretColon]

/-- The second pass closes each cell by a bar of its own. -/
theorem doubleBars_sectionText {cells : List Text} (hne : cells ≠ []) (h : ∀ c ∈ cells, '|' ∉ c) :
    Separator.doubleBars (course cells).text = (paddedCells cells).flatMap (delimited '|') := by
  -- behind its opening bar the row is a cell with its blank, then `" |"` and the cells after it
  suffices hbody : ∀ c (l : List Text), (∀ x ∈ c :: l, '|' ∉ x) →
      '|' :: Separator.doubleBars (c ++ ' ' :: (course l).text)
      = (onLast (· ++ [' ']) (c :: l)).flatMap (delimited '|') by
    obtain ⟨c, l, rfl⟩ := List.exists_cons_of_ne_nil hne
    have hfirst : ∀ x ∈ (' ' :: c) :: l, '|' ∉ x := by
      intro x hx
      rcases List.mem_cons.1 hx with rfl | hx
      · exact List.not_mem_cons_of_ne_of_not_mem (by decide) (h c List.mem_cons_self)
      · exact h x (List.mem_cons_of_mem c hx)
    rw [paddedCells, List.modifyHead_cons, ← hbody _ l hfirst]
    simp only [text, cellText, List.flatMap_cons, List.cons_append, List.append_assoc,
      List.nil_append]
    rw [Separator.doubleBars_cons]
    intro b r' he
    exact absurd (List.cons.inj he).1 (by decide)
  intro c l
  induction l generalizing c with
  | nil =>
    intro hc
    rw [Separator.doubleBars_append (hc c List.mem_cons_self) (by simp)]
    simp [text, onLast, delimited, Separator.doubleBars]
  | cons c' l ih =>
    intro hc
    have ih' := ih c' fun x hx => hc x (List.mem_cons_of_mem c hx)
    have hsplit : (course (c' :: l)).text = '|' :: ' ' :: (c' ++ ' ' :: (course l).text) := by
      simp [text, cellText]
    rw [Separator.doubleBars_append (hc c List.mem_cons_self) (by simp), hsplit,
      Separator.doubleBars_match _ (by decide) (by decide) (by decide), onLast_cons c (by simp),
      List.flatMap_cons, ← ih']
    simp [delimited]

/-! ## Reading a doubled row -/

theorem isDecimalDigit_of_isDigit {c : Char} (h : c.isDigit = true) : isDecimalDigit c = true := by
  have hc := Numeral.toNat_of_isDigit h
  rw [isDecimalDigit, List.any_eq_true]
  refine ⟨0x30, List.mem_cons_self, ?_⟩
  simp only [Bool.and_eq_true, decide_eq_true_eq]
  omega

/-- A heading between its carets is read as a header cell. -/
theorem header?_closedHeading (w : UInt32) {t : Text} (r : Text) (hne : t ≠ []) (h : '^' ∉ t) :
    Cell.header? (closedHeading (w, t) ++ r) = some (.headerCell w t, r) := by
  have hcell : Cell.IsHeaderCell (Numeral.ofNat w.toNat) t (closedHeading (w, t)) := {
    digits_ne_nil := Numeral.ofNat_ne_nil _
    isDecimalDigit := fun c hc => isDecimalDigit_of_isDigit (Numeral.isDigit_of_mem_ofNat _ c hc)
    inner_ne_nil := hne
    eq_or_eq := .inr (by simp [closedHeading, caretColon]) }
  rw [Cell.header?_append hcell (fun hm => h (List.mem_of_mem_tail hm)), Cell.headerFragment,
    Numeral.readUInt32?_ofNat]

theorem fragments_closedHeadings {cells : List (UInt32 × Text)}
    (h : ∀ c ∈ cells, c.2 ≠ [] ∧ '^' ∉ c.2) :
    Cell.fragments Cell.headerPattern (cells.flatMap closedHeading)
      = cells.map fun c => .headerCell c.1 c.2 := by
  have hpieces : Cell.headerPattern.pieces (cells.flatMap closedHeading)
      = cells.map fun c => .found (.headerCell c.1 c.2) :=
    Pattern.pieces_flatMap cells fun c hc r =>
      header?_closedHeading c.1 r (h c hc).1 (h c hc).2
  rw [Cell.fragments, hpieces, List.map_map]
  rfl

/-- A row of delimited cells is cut into them, for groups as for sections. -/
theorem fragments_delimited {d : Char} {p : Pattern Fragment} {make : Text → Fragment}
    (hp : ∀ t, p.match? t = (delimited? d t).map fun x => (make x.1, x.2)) {cells : List Text}
    (h : ∀ c ∈ cells, c ≠ [] ∧ d ∉ c) :
    Cell.fragments p (cells.flatMap (delimited d)) = cells.map make := by
  have hmatch : ∀ c ∈ cells, ∀ r, p.match? (delimited d c ++ r) = some (make c, r) := by
    intro c hc r
    have hcell := delimited?_append r (h c hc).1 (h c hc).2
    rw [hp, delimited, List.append_assoc, List.singleton_append, hcell, Option.map_some]
  rw [Cell.fragments, Pattern.pieces_flatMap cells hmatch, List.map_map]
  rfl

/-- A row of delimited cells is recognised by its first cell. -/
theorem delimited?_flatMap {d : Char} {c : Text} (l : List Text) (hne : c ≠ []) (h : d ∉ c) :
    ∃ rest, delimited? d ((c :: l).flatMap (delimited d)) = some (c, rest) := by
  refine ⟨l.flatMap (delimited d), ?_⟩
  rw [List.flatMap_cons, delimited, List.append_assoc, List.singleton_append]
  exact delimited?_append _ hne h

theorem delimited?_closedHeadings {cells : List (UInt32 × Text)} (hne : cells ≠ [])
    (h : ∀ c ∈ cells, '^' ∉ c.2) : (delimited? '^' (cells.flatMap closedHeading)).isSome := by
  obtain ⟨c, l, rfl⟩ := List.exists_cons_of_ne_nil hne
  have hfree := caret_not_mem_heading (h c List.mem_cons_self)
  have htext : (c :: l).flatMap closedHeading = '^' :: ':' ::
      ((Numeral.ofNat c.1.toNat ++ ':' :: c.2) ++ '^' :: l.flatMap closedHeading) := by
    simp [closedHeading, caretColon]
  rw [htext, delimited?_cons _ hfree]
  rfl

/-! ## The characters of a row -/

section Characters

variable {x : Char}

theorem not_mem_headerText {cells : List (UInt32 × Text)} (hdigit : x.isDigit = false)
    (hx : x ∉ ['^', ':', ' ']) (h : ∀ c ∈ cells, x ∉ c.2) : x ∉ (header cells).text := by
  intro hm
  simp only [text, List.mem_append, List.mem_flatMap] at hm
  rcases hm with ⟨c, hc, hm⟩ | hm
  · have hnum : x ∉ Numeral.ofNat c.1.toNat := fun hn =>
      Bool.false_ne_true (hdigit.symm.trans (Numeral.isDigit_of_mem_ofNat _ x hn))
    have htext := h c hc
    simp only [headingText, caretColon, List.mem_append, List.mem_cons] at hm hx
    tauto
  · simp only [List.mem_cons] at hm hx
    tauto

theorem not_mem_groupText {titles : List Text} (hx : x ≠ '#') (h : ∀ t ∈ titles, x ∉ t) :
    x ∉ (group titles).text := by
  intro hm
  obtain ⟨t, ht, hm⟩ := List.mem_flatMap.1 hm
  have htext := h t ht
  simp only [List.mem_append, List.mem_cons, List.not_mem_nil] at hm
  tauto

theorem not_mem_courseText {cells : List Text} (hx : x ∉ [' ', '|']) (h : ∀ c ∈ cells, x ∉ c) :
    x ∉ (course cells).text := by
  intro hm
  simp only [text, List.mem_cons, List.mem_flatMap] at hm hx
  rcases hm with hm | ⟨c, hc, hm⟩
  · tauto
  · have htext := h c hc
    simp only [cellText, List.mem_append, List.mem_cons] at hm
    tauto

/-- No written row holds a line feed. -/
theorem newline_not_mem_text {r : AuthoredRow} (h : r.WellFormed) : '\n' ∉ r.text := by
  cases r with
  | header cells =>
    exact not_mem_headerText (by decide) (by decide) fun c hc => (h.2.1 c hc).2.2
  | group titles => exact not_mem_groupText (by decide) fun t ht => (h.2 t ht).2.2.2.1
  | course cells => exact not_mem_courseText (by decide) fun c hc => (h.2.1 c hc).2.1
  | other t => exact h.2.1

/-- A group holds `^:` only inside a title. -/
theorem not_infix_groupText {titles : List Text} (h : ∀ t ∈ titles, ¬ caretColon <:+: t) :
    ¬ caretColon <:+: (group titles).text := by
  induction titles with
  | nil => decide
  | cons t titles ih =>
    have hrest := ih fun u hu => h u (List.mem_cons_of_mem t hu)
    have htext : (group (t :: titles)).text = [] ++ '#' :: (t ++ '#' :: (group titles).text) := by
      simp [text]
    rw [htext]
    exact not_infix_append_cons (by decide) (by decide)
      (not_infix_append_cons (by decide) (h t List.mem_cons_self) hrest)

/-- The row of a section holds `^:` only inside a cell. -/
theorem not_infix_courseText {cells : List Text} (h : ∀ c ∈ cells, ¬ caretColon <:+: c) :
    ¬ caretColon <:+: (course cells).text := by
  suffices hcells : ¬ caretColon <:+: cells.flatMap cellText from
    not_infix_append_cons (s := []) (by decide) (by decide) hcells
  induction cells with
  | nil => decide
  | cons c cells ih =>
    have hrest := ih fun u hu => h u (List.mem_cons_of_mem c hu)
    have htext : (c :: cells).flatMap cellText
        = [] ++ ' ' :: (c ++ ' ' :: ([] ++ '|' :: cells.flatMap cellText)) := by
      simp [cellText]
    rw [htext]
    exact not_infix_append_cons (by decide) (by decide)
      (not_infix_append_cons (by decide) (h c List.mem_cons_self)
        (not_infix_append_cons (by decide) (by decide) hrest))

end Characters

/-! ## Reading a row -/

variable {backend : Backend} {id : CourseId}

/-- The headings that are read are not empty and hold no caret. -/
theorem heading_of_mem_headings {cells : List (UInt32 × Text)} (hcaret : ∀ c ∈ cells, '^' ∉ c.2)
    (hempty : ∀ c ∈ cells.dropLast, c.2 ≠ []) : ∀ c ∈ headings cells, c.2 ≠ [] ∧ '^' ∉ c.2 := by
  apply forall_mem_onLast
  · intro c hc
    exact ⟨hempty c hc, hcaret c (List.mem_of_mem_dropLast hc)⟩
  · intro c hc
    simpa using hcaret c hc

/-- The cells that are read are not empty and hold no bar. -/
theorem cell_of_mem_paddedCells {cells : List Text} (hbar : ∀ c ∈ cells, '|' ∉ c)
    (hempty : ∀ c ∈ cells.tail.dropLast, c ≠ []) : ∀ c ∈ paddedCells cells, c ≠ [] ∧ '|' ∉ c := by
  cases cells with
  | nil => simp [paddedCells, onLast]
  | cons c l =>
    have hfirst : ∀ x ∈ (' ' :: c) :: l, '|' ∉ x := by
      intro x hx
      rcases List.mem_cons.1 hx with rfl | hx
      · exact List.not_mem_cons_of_ne_of_not_mem (by decide) (hbar c List.mem_cons_self)
      · exact hbar x (List.mem_cons_of_mem c hx)
    apply forall_mem_onLast
    · intro x hx
      refine ⟨?_, hfirst x (List.mem_of_mem_dropLast hx)⟩
      by_cases hl : l = []
      · simp [hl] at hx
      · rw [List.modifyHead_cons, List.dropLast_cons_of_ne_nil hl] at hx
        rcases List.mem_cons.1 hx with rfl | hx
        · simp
        · exact hempty x hx
    · intro x hx
      simpa using hfirst x hx

theorem readLine_headerText {cells : List (UInt32 × Text)} (h : (header cells).WellFormed) :
    (Document.readLine backend id (Separator.double (header cells).text)).value
      = (header cells).line backend id := by
  obtain ⟨hne, hfree, hempty⟩ := h
  have hcaret : ∀ c ∈ cells, '^' ∉ c.2 := fun c hc => (hfree c hc).1
  have hcells := heading_of_mem_headings hcaret hempty
  have hbar : '|' ∉ Separator.doubleCarets (header cells).text := fun hm =>
    not_mem_headerText (by decide) (by decide) (fun c hc => (hfree c hc).2.1)
      (Separator.mem_of_mem_doubleCarets _ hm)
  have hstart : (delimited? '^' ((headings cells).flatMap closedHeading)).isSome :=
    delimited?_closedHeadings (onLast_ne_nil hne) fun c hc => (hcells c hc).2
  rw [Separator.double, Separator.doubleBars_of_not_mem hbar, doubleCarets_headerText hne hcaret,
    Document.readLine_headerRow hstart, fragments_closedHeadings hcells]
  rfl

theorem readLine_groupText {titles : List Text} (h : (group titles).WellFormed) :
    (Document.readLine backend id (Separator.double (group titles).text)).value
      = (group titles).line backend id := by
  obtain ⟨hne, hfree⟩ := h
  have hcells : ∀ t ∈ titles, t ≠ [] ∧ '#' ∉ t := fun t ht => ⟨(hfree t ht).1, (hfree t ht).2.1⟩
  have hbar := not_mem_groupText (x := '|') (by decide) fun t ht => (hfree t ht).2.2.1
  have hcaret := not_infix_groupText fun t ht => (hfree t ht).2.2.2.2
  have hdouble : Separator.double (group titles).text = titles.flatMap (delimited '#') := by
    rw [Separator.double, Separator.doubleCarets_of_not_infix hcaret,
      Separator.doubleBars_of_not_mem hbar]
    rfl
  have hfrag := fragments_delimited (p := Cell.groupPattern) (fun _ => rfl) hcells
  obtain ⟨t, l, rfl⟩ := List.exists_cons_of_ne_nil hne
  have ht := hcells t List.mem_cons_self
  obtain ⟨rest, hstart⟩ := delimited?_flatMap l ht.1 ht.2
  have hnot : delimited? '^' ((t :: l).flatMap (delimited '#')) = none :=
    delimited?_of_head?_ne (by simp [delimited])
  rw [hdouble, Document.readLine_groupRow hnot (by rw [hstart]; rfl), hfrag]
  rfl

/-- The label of a section is its first cell without blanks around it. -/
theorem trim_head?_paddedCells (c : Text) (l : List Text) :
    ∃ t r, paddedCells (c :: l) = t :: r ∧ trim t = trim c := by
  cases l with
  | nil =>
    refine ⟨' ' :: c ++ [' '], [], rfl, ?_⟩
    rw [trim_append_singleton _ (by decide), trim_cons _ (by decide)]
  | cons d l => exact ⟨' ' :: c, _, rfl, trim_cons c (by decide)⟩

theorem readLine_courseText {cells : List Text} (h : (course cells).WellFormed) :
    (Document.readLine backend id (Separator.double (course cells).text)).value
      = (course cells).line backend id := by
  obtain ⟨hne, hfree, hempty⟩ := h
  have hbar : ∀ c ∈ cells, '|' ∉ c := fun c hc => (hfree c hc).1
  have hcells := cell_of_mem_paddedCells hbar hempty
  have hcaret := not_infix_courseText fun c hc => (hfree c hc).2.2
  have hdouble : Separator.double (course cells).text
      = (paddedCells cells).flatMap (delimited '|') := by
    rw [Separator.double, Separator.doubleCarets_of_not_infix hcaret,
      doubleBars_sectionText hne hbar]
  have hfrag := fragments_delimited (p := Cell.sectionPattern) (fun _ => rfl) hcells
  obtain ⟨c, l, rfl⟩ := List.exists_cons_of_ne_nil hne
  obtain ⟨t, r, hpad, htrim⟩ := trim_head?_paddedCells c l
  rw [hdouble, line, List.headD_cons, ← htrim]
  rw [hpad] at hcells hfrag ⊢
  have ht := hcells t List.mem_cons_self
  obtain ⟨rest, hstart⟩ := delimited?_flatMap r ht.1 ht.2
  have hhead : ((t :: r).flatMap (delimited '|')).head? = some '|' := rfl
  rw [Document.readLine_sectionRow (delimited?_of_head?_ne (by rw [hhead]; decide))
    (delimited?_of_head?_ne (by rw [hhead]; decide)) hstart, Journaled.value_map,
    Document.value_readSectionRow, hfrag]

theorem readLine_otherText {t : Text} (h : (other t).WellFormed) :
    (Document.readLine backend id (Separator.double t)).value = .plain t := by
  obtain ⟨hbar, -, hcaret, hhead⟩ := h
  have hdouble : Separator.double t = t := by
    rw [Separator.double, Separator.doubleCarets_of_not_infix hcaret,
      Separator.doubleBars_of_not_mem hbar]
  have hnobar : t.head? ≠ some '|' := fun he => hbar (List.mem_of_head? he)
  rw [hdouble, Document.readLine_plain (delimited?_of_head?_ne hhead.1)
    (delimited?_of_head?_ne hhead.2) (delimited?_of_head?_ne hnobar)]
  rfl

theorem readLine_text {r : AuthoredRow} (h : r.WellFormed) :
    (Document.readLine backend id (Separator.double r.text)).value = r.line backend id := by
  cases r with
  | header cells => exact readLine_headerText h
  | group titles => exact readLine_groupText h
  | course cells => exact readLine_courseText h
  | other t => exact readLine_otherText h

end AuthoredRow

/-! ## Reading a document of rows -/

/-- A document of well-formed rows is read as these rows: one line for each, with the cells that
its author gave it. -/
theorem read_authoredRows (backend : Backend) (id : CourseId) (rows : List AuthoredRow)
    (hne : rows ≠ []) (h : ∀ r ∈ rows, r.WellFormed) :
    (Document.read backend id (ofLines (rows.map AuthoredRow.text))).value
      = rows.map (AuthoredRow.line backend id) := by
  have hlines : lines (ofLines (rows.map AuthoredRow.text)) = rows.map AuthoredRow.text := by
    apply lines_ofLines
    · simpa using hne
    · intro l hl
      obtain ⟨r, hr, rfl⟩ := List.mem_map.1 hl
      exact AuthoredRow.newline_not_mem_text (h r hr)
  rw [Document.read_eq_mapM, hlines, Journaled.value_mapM, List.map_map]
  apply List.map_congr_left
  intro r hr
  exact AuthoredRow.readLine_text (h r hr)

/-- A header row, a group, two rows of sections and a plain line, read together in a course that
has the section "Week 1". -/
theorem read_authoredRows_week :
    let rows : List AuthoredRow :=
      [ .header [(30, "Activity".toList), (70, [])], .group ["Term 1".toList],
        .course ["Week 1".toList, "\x7bcompletion:42\x7d".toList, []], .course [[]],
        .other "Legend #all#".toList ]
    let backend : Backend := (Store.empty.addSection 1 "Week 1".toList true).backend
    rows ≠ [] ∧ (∀ r ∈ rows, r.WellFormed)
      ∧ (Document.read backend 1 (ofLines (rows.map AuthoredRow.text))).value
        = rows.map (AuthoredRow.line backend 1) := by
  intro rows backend
  have hne : rows ≠ [] := by decide
  have h : ∀ r ∈ rows, r.WellFormed := by decide
  exact ⟨hne, h, read_authoredRows backend 1 rows hne h⟩

end ProgressTable
