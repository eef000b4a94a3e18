import Mathlib.Data.List.TakeWhile
import Mathlib.Tactic
import ProgressTable.Markup.Html
import ProgressTable.Proofs.Text.Lines
import ProgressTable.Proofs.Text.Numeral
import ProgressTable.Proofs.Text.Pattern

/-!
# The tags of a table

A tag is what stands from a `<` to the next `>`, and the tags of a text are found from left to
right. A row that is grey and one that is black differ in their first tag only, so `outline` takes
the one tag for the other.

Where a tag ends is settled by the text behind it, and so tags cannot be counted piece by piece.
`SameTags` compares two texts together with what may follow them: it is kept by `++`, and two tables
are compared by comparing their templates and their texts one after the other.
-/

namespace ProgressTable.Html

open Text

/-! ## Tags -/

/-- A tag, and the text behind it. -/
def tag? : Text → Option (Text × Text)
  | '<' :: r => match r.dropWhile (· ≠ '>') with
    | [] => none
    | _ :: rest => some ('<' :: r.takeWhile (· ≠ '>') ++ ['>'], rest)
  | _ => none

theorem tag?_shorter (t tag rest : Text) (h : tag? t = some (tag, rest)) :
    rest.length < t.length := by
  unfold tag? at h
  split at h
  · next r =>
    split at h
    · cases h
    · next c rest' hr =>
      obtain ⟨-, rfl⟩ := Prod.mk.inj (Option.some.inj h)
      have hle := (List.dropWhile_sublist (l := r) (· ≠ '>')).length_le
      rw [hr] at hle
      simp only [List.length_cons] at hle ⊢
      omega
  · cases h

/-- The pattern of tags. -/
def tagPattern : Pattern Text := ⟨tag?, tag?_shorter⟩

/-- The tags of a text, from left to right. -/
def tags (t : Text) : List Text := tagPattern.found t

/-- A tag ends at the first `>`. -/
theorem tag?_cons {s : Text} (r : Text) (h : '>' ∉ s) :
    tag? ('<' :: (s ++ '>' :: r)) = some ('<' :: s ++ ['>'], r) := by
  simp only [tag?, dropWhile_ne_append r h, takeWhile_ne_append r h]

theorem eq_of_tag? {t tag rest : Text} (h : tag? t = some (tag, rest)) :
    ∃ s, '>' ∉ s ∧ tag = '<' :: s ++ ['>'] ∧ t = '<' :: (s ++ '>' :: rest) := by
  unfold tag? at h
  split at h
  · next r =>
    split at h
    · cases h
    · next c rest' hr =>
      obtain ⟨rfl, rfl⟩ := Prod.mk.inj (Option.some.inj h)
      -- the text behind the tag begins where `>` is met first
      have hc : c = '>' := by
        have hhead := List.head?_dropWhile_not (· ≠ '>') r
        rw [hr] at hhead
        simpa using hhead
      refine ⟨r.takeWhile (· ≠ '>'), fun hm => ?_, rfl, ?_⟩
      · have hne : ('>' : Char) ≠ '>' := by simpa using List.mem_takeWhile_imp hm
        exact hne rfl
      · subst hc
        rw [← hr, List.takeWhile_append_dropWhile]
  · cases h

/-- What follows a tag does not change it. -/
theorem tag?_append {t tag rest : Text} (h : tag? t = some (tag, rest)) (r : Text) :
    tag? (t ++ r) = some (tag, rest ++ r) := by
  obtain ⟨s, hs, rfl, rfl⟩ := eq_of_tag? h
  rw [List.cons_append, List.append_assoc, List.cons_append]
  exact tag?_cons _ hs

theorem tags_of_tag? {t tag rest : Text} (h : tag? t = some (tag, rest)) :
    tags t = tag :: tags rest :=
  Pattern.found_of_match h

theorem tags_cons {c : Char} (h : c ≠ '<') (t : Text) : tags (c :: t) = tags t := by
  apply Pattern.found_cons
  show tag? (c :: t) = none
  unfold tag?
  split
  · next r he => exact absurd (List.cons.inj he).1 h
  · rfl

/-- Text without a `<` adds no tags. -/
theorem tags_append_of_not_mem {s : Text} (h : '<' ∉ s) (r : Text) : tags (s ++ r) = tags r := by
  induction s with
  | nil => rfl
  | cons c s ih =>
    rw [List.cons_append, tags_cons (List.ne_of_not_mem_cons h).symm]
    exact ih (List.not_mem_of_not_mem_cons h)

/-! ## Texts of the same tags -/

/-- A tag, with the opening of a grey row taken for that of a black one. -/
def plainTag (tag : Text) : Text :=
  if tag = RowStyle.notCompleted.openTag then RowStyle.normal.openTag else tag

/-- The tags of a text, not telling grey rows from black ones. -/
def outline (t : Text) : List Text := (tags t).map plainTag

/-- Two texts have the same outline, whatever of the same outline follows them. -/
def SameTags (a b : Text) : Prop :=
  ∀ r r', outline r = outline r' → outline (a ++ r) = outline (b ++ r')

namespace SameTags

variable {a a' b b' : Text}

theorem outline_eq (h : SameTags a b) : outline a = outline b := by
  have hend := h [] [] rfl
  rwa [List.append_nil, List.append_nil] at hend

theorem nil : SameTags [] [] := fun _ _ h => h

theorem append (h : SameTags a b) (h' : SameTags a' b') : SameTags (a ++ a') (b ++ b') := by
  intro r r' hr
  rw [List.append_assoc, List.append_assoc]
  exact h _ _ (h' r r' hr)

/-- Texts without a `<` may be exchanged. -/
theorem of_not_mem (ha : '<' ∉ a) (hb : '<' ∉ b) : SameTags a b := by
  intro r r' hr
  rwa [outline, outline, tags_append_of_not_mem ha, tags_append_of_not_mem hb]

/-- Texts that begin with a tag may be exchanged if what follows may be. -/
theorem of_tag? {tag tag' rest rest' : Text} (ha : tag? a = some (tag, rest))
    (hb : tag? b = some (tag', rest')) (htag : plainTag tag = plainTag tag')
    (hrest : SameTags rest rest') : SameTags a b := by
  intro r r' hr
  rw [outline, outline, tags_of_tag? (tag?_append ha r), tags_of_tag? (tag?_append hb r'),
    List.map_cons, List.map_cons, htag]
  exact congrArg _ (hrest r r' hr)

/-- A text that begins with a tag may stand for itself if the rest of it may. -/
theorem of_rest {tag rest : Text} (h : tag? a = some (tag, rest)) (hrest : SameTags rest rest) :
    SameTags a a :=
  of_tag? h h rfl hrest

/-- A tag may stand for itself. -/
theorem tag (h : tag? a = some (a, [])) : SameTags a a := of_rest h nil

theorem flatMap {α : Type} {f g : α → Text} {xs : List α} (h : ∀ x ∈ xs, SameTags (f x) (g x)) :
    SameTags (xs.flatMap f) (xs.flatMap g) := by
  induction xs with
  | nil => exact nil
  | cons x xs ih =>
    rw [List.flatMap_cons, List.flatMap_cons]
    exact (h x List.mem_cons_self).append (ih fun y hy => h y (List.mem_cons_of_mem x hy))

theorem ofLines {α : Type} {f g : α → Text} {xs : List α} (h : ∀ x ∈ xs, SameTags (f x) (g x)) :
    SameTags (Text.ofLines (xs.map f)) (Text.ofLines (xs.map g)) := by
  induction xs with
  | nil => exact nil
  | cons x xs ih =>
    have hx := h x List.mem_cons_self
    by_cases hxs : xs = []
    · rw [hxs, List.map_singleton, List.map_singleton, ofLines_singleton, ofLines_singleton]
      exact hx
    · have hfeed : SameTags ['\n'] ['\n'] := of_not_mem (by decide) (by decide)
      have hmore := ih fun y hy => h y (List.mem_cons_of_mem x hy)
      rw [List.map_cons, List.map_cons, ofLines_cons _ (by simpa using hxs),
        ofLines_cons _ (by simpa using hxs)]
      exact hx.append (hfeed.append hmore)

end SameTags

/-! ## Templates

A template is a literal, and `String.toList_ofList` gives its list of characters. The tags of the
list are found by computation.
-/

/-- A literal that is one tag may stand for itself. -/
theorem SameTags.of_literal {t l : Text} (h : t = l) (htag : tag? l = some (l, [])) :
    SameTags t t := by
  rw [h]
  exact .tag htag

/-- The width of a header cell stands inside a tag. -/
theorem sameTags_headerOpen (width : UInt32) :
    SameTags (headerOpen ++ Numeral.ofNat width.toNat ++ headerMiddle)
      (headerOpen ++ Numeral.ofNat width.toNat ++ headerMiddle) := by
  obtain ⟨before, hopen, hbefore⟩ : ∃ s, headerOpen = '<' :: s ∧ '>' ∉ s :=
    ⟨_, String.toList_ofList, by decide⟩
  obtain ⟨after, heading, hmiddle, hafter, hheading⟩ : ∃ s h, headerMiddle = s ++ '>' :: h
      ∧ '>' ∉ s ∧ tag? h = some (h, []) :=
    ⟨['%', ';', '"'], ['<', 'h', '3', '>'], String.toList_ofList, by decide, rfl⟩
  have hwidth : '>' ∉ Numeral.ofNat width.toNat := fun hm =>
    absurd (Numeral.isDigit_of_mem_ofNat _ _ hm) (by decide)
  have htag := tag?_cons (s := before ++ Numeral.ofNat width.toNat ++ after) heading (by
    rw [List.mem_append, List.mem_append, not_or, not_or]
    exact ⟨⟨hbefore, hwidth⟩, hafter⟩)
  have heq : headerOpen ++ Numeral.ofNat width.toNat ++ headerMiddle
      = '<' :: (before ++ Numeral.ofNat width.toNat ++ after ++ '>' :: heading) := by
    rw [hopen, hmiddle]
    simp only [List.cons_append, List.append_assoc]
  rw [heq]
  exact .of_rest htag (.tag hheading)

theorem sameTags_headerClose : SameTags headerClose headerClose := by
  have h : headerClose = _ := String.toList_ofList
  rw [h]
  exact .of_rest rfl (.tag rfl)

/-- A cell of a section begins with blanks behind its tag. -/
theorem sameTags_sectionOpen : SameTags sectionOpen sectionOpen := by
  have h : sectionOpen = _ := String.toList_ofList
  rw [h]
  exact .of_rest rfl (.of_not_mem (by decide) (by decide))

/-- The text of a cell may be exchanged. -/
theorem sameTags_fragment {t t' : Text} (h : SameTags t t') (f : Fragment) :
    SameTags (fragment (f.withText t)) (fragment (f.withText t')) := by
  have hclose : SameTags cellClose cellClose := .of_literal String.toList_ofList rfl
  cases f with
  | headerCell width _ => exact ((sameTags_headerOpen width).append h).append sameTags_headerClose
  | groupCell _ =>
    have hopen : SameTags groupOpen groupOpen := .of_literal String.toList_ofList rfl
    exact (hopen.append h).append hclose
  | sectionCell _ => exact (sameTags_sectionOpen.append h).append hclose
  | raw _ => exact h

/-- The opening of a row is one tag. -/
theorem tag?_openTag (style : RowStyle) : tag? style.openTag = some (style.openTag, []) := by
  have hlist : ∃ l, style.openTag = l ∧ tag? l = some (l, []) := by
    cases style <;> exact ⟨_, String.toList_ofList, rfl⟩
  obtain ⟨l, hopen, htag⟩ := hlist
  rw [hopen, htag]

/-- Rows may be exchanged if their cells may be, and a grey row for a black one. -/
theorem sameTags_row {style style' : RowStyle} {fs fs' : List Fragment}
    (hstyle : plainTag style.openTag = plainTag style'.openTag)
    (hfs : SameTags (fs.map fragment).flatten (fs'.map fragment).flatten) :
    SameTags (row style fs) (row style' fs') := by
  have hopen := SameTags.of_tag? (tag?_openTag style) (tag?_openTag style') hstyle .nil
  have hclose : SameTags rowClose rowClose := .of_literal String.toList_ofList rfl
  exact (hopen.append hfs).append hclose

/-- A grey row is taken for a black one. -/
theorem plainTag_notCompleted :
    plainTag RowStyle.notCompleted.openTag = plainTag RowStyle.normal.openTag := by
  rw [plainTag, plainTag, if_pos rfl, ite_self]

/-- Tables may be exchanged if their rows may be. -/
theorem sameTags_table {t t' : Text} (h : SameTags t t') :
    SameTags (tableOpen ++ t ++ tableClose) (tableOpen ++ t' ++ tableClose) := by
  have hopen : SameTags tableOpen tableOpen := .of_literal String.toList_ofList rfl
  have hclose : SameTags tableClose tableClose := .of_literal String.toList_ofList rfl
  exact (hopen.append h).append hclose

end ProgressTable.Html
