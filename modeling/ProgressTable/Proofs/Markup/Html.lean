import Mathlib.Tactic
import ProgressTable.Markup.Html
import ProgressTable.Proofs.Markup.Token
import ProgressTable.Proofs.Text.Lines
import ProgressTable.Proofs.Text.Numeral

/-!
# Rows and line feeds in HTML

The templates of a table hold no line feed, so a line is written without one unless a text of the
line brings it. A row tells its style by the tag that it begins with. What stands between the two
ends of a table is found again by its length.
-/

namespace ProgressTable.Html

/-! ## Templates

A template is a literal, and `String.toList_ofList` gives its list of characters.
-/

theorem newline_not_mem_literal {t l : Text} (h : t = l) (hl : '\n' ∉ l) : '\n' ∉ t := by
  rw [h]
  exact hl

theorem newline_not_mem_openTag (style : RowStyle) : '\n' ∉ style.openTag := by
  cases style <;> exact newline_not_mem_literal String.toList_ofList (by decide)

theorem openTag_ne_nil (style : RowStyle) : style.openTag ≠ [] := by
  have hlist : ∃ l, style.openTag = l ∧ l ≠ [] := by
    cases style <;> exact ⟨_, String.toList_ofList, List.cons_ne_nil _ _⟩
  obtain ⟨l, hopen, hne⟩ := hlist
  rwa [hopen]

/-- Rows of different styles begin with different tags. -/
theorem openTag_inj {style style' : RowStyle} (h : style.openTag = style'.openTag) :
    style = style' := by
  -- the tags are literals, which are told apart as strings
  cases style <;> cases style' <;> first | rfl | exact absurd (String.toList_inj.1 h) (by decide)

/-! ## Lines -/

theorem newline_not_mem_fragment {f : Fragment} (h : '\n' ∉ f.text) : '\n' ∉ fragment f := by
  have hcell : '\n' ∉ cellClose := newline_not_mem_literal String.toList_ofList (by decide)
  cases f with
  | headerCell w t =>
    have hopen : '\n' ∉ headerOpen := newline_not_mem_literal String.toList_ofList (by decide)
    have hwidth : '\n' ∉ Numeral.ofNat w.toNat := fun hm =>
      absurd (Numeral.isDigit_of_mem_ofNat _ _ hm) (by decide)
    have hmiddle : '\n' ∉ headerMiddle := newline_not_mem_literal String.toList_ofList (by decide)
    have ht : '\n' ∉ t := h
    have hclose : '\n' ∉ headerClose := newline_not_mem_literal String.toList_ofList (by decide)
    simp only [fragment, List.mem_append, not_or]
    exact ⟨⟨⟨⟨hopen, hwidth⟩, hmiddle⟩, ht⟩, hclose⟩
  | groupCell t =>
    have hopen : '\n' ∉ groupOpen := newline_not_mem_literal String.toList_ofList (by decide)
    have ht : '\n' ∉ t := h
    simp only [fragment, List.mem_append, not_or]
    exact ⟨⟨hopen, ht⟩, hcell⟩
  | sectionCell t =>
    have hopen : '\n' ∉ sectionOpen := newline_not_mem_literal String.toList_ofList (by decide)
    have ht : '\n' ∉ t := h
    simp only [fragment, List.mem_append, not_or]
    exact ⟨⟨hopen, ht⟩, hcell⟩
  | raw t => exact h

theorem newline_not_mem_row {style : RowStyle} {fs : List Fragment}
    (h : ∀ t ∈ fs.map Fragment.text, '\n' ∉ t) : '\n' ∉ row style fs := by
  have hfs : '\n' ∉ (fs.map fragment).flatten := by
    intro hm
    rw [← List.flatMap_def] at hm
    obtain ⟨f, hf, hm⟩ := List.mem_flatMap.1 hm
    exact newline_not_mem_fragment (h f.text (List.mem_map_of_mem hf)) hm
  simp only [row, List.mem_append, not_or]
  have hclose : '\n' ∉ rowClose := newline_not_mem_literal String.toList_ofList (by decide)
  exact ⟨⟨newline_not_mem_openTag style, hfs⟩, hclose⟩

/-- A line whose texts hold no line feed is written without one. -/
theorem newline_not_mem_line {preview : Bool} {l : Line} (h : ∀ t ∈ l.texts, '\n' ∉ t) :
    '\n' ∉ line preview l := by
  cases l with
  | headerRow fs => exact newline_not_mem_row h
  | groupRow fs => exact newline_not_mem_row h
  | sectionRow r =>
    rw [line]
    split
    · exact newline_not_mem_row h
    · exact List.not_mem_nil
  | plain t => exact h t (by simp [Line.texts])

/-- What stands between the two ends of a table. -/
def inside (html : Text) : Text :=
  (html.drop tableOpen.length).take (html.length - tableOpen.length - tableClose.length)

theorem inside_append (t : Text) : inside (tableOpen ++ t ++ tableClose) = t := by
  have hlength : (tableOpen ++ t ++ tableClose).length - tableOpen.length - tableClose.length
      = t.length := by
    simp only [List.length_append]
    omega
  rw [inside, hlength, List.append_assoc, List.drop_left, List.take_left]

end ProgressTable.Html
