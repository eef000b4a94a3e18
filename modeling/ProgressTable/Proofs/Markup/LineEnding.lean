import Mathlib.Tactic
import ProgressTable.Proofs.Markup.OnePass
import ProgressTable.Proofs.Markup.RowSource

/-!
# Carriage returns at the ends of lines

A document whose lines end with a carriage return and a line feed is rendered like the same document
with line feeds alone. The carriage return is no part of a cell, of a token or of a separator: it
ends up as raw text, behind everything else of its line (`Line.ReturnBehind`), and each step of a
rendering leaves it there. So it stands at the end of a plain line and before the tag that closes a
row (`Html.lineReturned`), and it changes nothing else (`renderTable_crlf`).
-/

namespace ProgressTable

open Text

/-- A row with a carriage return behind it: it joins the raw text that ends the row, or it is raw
text on its own. -/
inductive Fragment.ReturnBehind : List Fragment → List Fragment → Prop
  | joined (earlier : List Fragment) (t : Text) :
    ReturnBehind (earlier ++ [.raw t]) (earlier ++ [.raw (t ++ ['\r'])])
  | apart (fs : List Fragment) : ReturnBehind fs (fs ++ [.raw ['\r']])

/-- A line with a carriage return behind it. Its class, its cells, its label and its status are
those of the line. -/
inductive Line.ReturnBehind : Line → Line → Prop
  | headerRow {fs fs' : List Fragment} (h : Fragment.ReturnBehind fs fs') :
    ReturnBehind (.headerRow fs) (.headerRow fs')
  | groupRow {fs fs' : List Fragment} (h : Fragment.ReturnBehind fs fs') :
    ReturnBehind (.groupRow fs) (.groupRow fs')
  | sectionRow {row : SectionRow} {fs' : List Fragment}
    (h : Fragment.ReturnBehind row.fragments fs') :
    ReturnBehind (.sectionRow row) (.sectionRow { row with fragments := fs' })
  | plain (t : Text) : ReturnBehind (.plain t) (.plain (t ++ ['\r']))

theorem Fragment.ReturnBehind.cons {fs fs' : List Fragment} (f : Fragment)
    (h : ReturnBehind fs fs') : ReturnBehind (f :: fs) (f :: fs') := by
  cases h with
  | joined earlier t => exact .joined (f :: earlier) t
  | apart fs => exact .apart (f :: fs)

/-- What only the text before the carriage returns tells is told of the texts of a line. -/
theorem Line.ReturnBehind.flatMap_texts {β : Type} {f : Text → List β} (hnil : f [] = [])
    (hreturn : ∀ t, f (t ++ ['\r']) = f t) {l l' : Line} (h : l.ReturnBehind l') :
    l'.texts.flatMap f = l.texts.flatMap f := by
  have hfragments {fs fs' : List Fragment} (h : Fragment.ReturnBehind fs fs') :
      (fs'.map Fragment.text).flatMap f = (fs.map Fragment.text).flatMap f := by
    have hsingle : f ['\r'] = [] := (hreturn []).trans hnil
    cases h with
    | joined earlier t => simp [Fragment.text, hreturn]
    | apart fs => simp [Fragment.text, hsingle]
  cases h with
  | headerRow h => exact hfragments h
  | groupRow h => exact hfragments h
  | sectionRow h => exact hfragments h
  | plain t => simp [Line.texts, hreturn]

/-! ## Reading -/

namespace Cell

theorem returnBehind_ofPiece (ps : List (Piece Fragment)) :
    Fragment.ReturnBehind (ps.map ofPiece) ((Pattern.snocVerbatim '\r' ps).map ofPiece) := by
  fun_induction Pattern.snocVerbatim '\r' ps with
  | case1 => exact .apart []
  | case2 t => exact .joined [] t
  | case3 x ps hne ih =>
    rw [List.map_cons, List.map_cons]
    exact ih.cons (ofPiece x)

end Cell

namespace RowKind

/-- Every cell ends with its delimiter. -/
theorem getLast?_ne_of_source {kind : RowKind} {f : Fragment} {part : Text}
    (h : kind.source f part) : part.getLast? ≠ some '\r' := by
  cases kind with
  | header =>
    obtain ⟨digits, inner, hcell, -, -⟩ := h
    rcases hcell.eq_or_eq with rfl | rfl
    · rw [List.getLast?_concat]
      decide
    · rw [List.getLast?_concat]
      decide
  | group =>
    obtain ⟨inner, -, -, rfl, -⟩ := h
    rw [List.getLast?_concat]
    decide
  | course =>
    obtain ⟨inner, -, -, rfl, -⟩ := h
    rw [List.getLast?_concat]
    decide

/-- A carriage return behind a row is behind its fragments. -/
theorem returnBehind_fragments (kind : RowKind) (t : Text) :
    Fragment.ReturnBehind (Cell.fragments kind.cells t)
      (Cell.fragments kind.cells (t ++ ['\r'])) := by
  rw [Cell.fragments, Cell.fragments,
    Pattern.pieces_append_singleton kind.recognises fun _ _ => getLast?_ne_of_source]
  exact Cell.returnBehind_ofPiece _

end RowKind

variable (ctx : RenderContext) (dates : DateLabels)

/-- A line with a carriage return behind it is read as the line is, and asks the same. -/
theorem lineRead_return (l : Text) :
    (lineRead ctx l).value.ReturnBehind (lineRead ctx (l ++ ['\r'])).value
      ∧ (lineRead ctx (l ++ ['\r'])).calls = (lineRead ctx l).calls := by
  rw [lineRead, lineRead, Separator.double_append_return]
  generalize Separator.double l = t
  have hcaret := delimited?_append_singleton (show '\r' ≠ '^' by decide) t
  have hhash := delimited?_append_singleton (show '\r' ≠ '#' by decide) t
  have hbar := delimited?_append_singleton (show '\r' ≠ '|' by decide) t
  have hread := Document.readAs_readLine ctx.backend ctx.course t
  generalize Document.readLine ctx.backend ctx.course t = x at hread ⊢
  cases hread with
  | headerRow h =>
    rw [Document.readLine_headerRow (by rwa [hcaret, Option.isSome_map])]
    exact ⟨.headerRow (RowKind.header.returnBehind_fragments t), rfl⟩
  | groupRow hnocaret h =>
    rw [hnocaret] at hcaret
    rw [Document.readLine_groupRow hcaret (by rwa [hhash, Option.isSome_map])]
    exact ⟨.groupRow (RowKind.group.returnBehind_fragments t), rfl⟩
  | sectionRow hnocaret hnohash h =>
    rw [hnocaret] at hcaret
    rw [hnohash] at hhash
    rw [h] at hbar
    rw [Document.readLine_sectionRow hcaret hhash hbar, Journaled.value_map, Journaled.value_map,
      Journaled.calls_map, Journaled.calls_map, Document.calls_readSectionRow,
      Document.calls_readSectionRow, Document.value_readSectionRow, Document.value_readSectionRow]
    exact ⟨.sectionRow (RowKind.course.returnBehind_fragments t), rfl⟩
  | plain hnocaret hnohash hnobar =>
    rw [hnocaret] at hcaret
    rw [hnohash] at hhash
    rw [hnobar] at hbar
    rw [Document.readLine_plain hcaret hhash hbar]
    exact ⟨.plain t, rfl⟩

/-! ## Replacing tokens -/

namespace Token

theorem getLast?_ne_of_tokenSource {id : ActivityId} {part : Text} (h : TokenSource id part) :
    part.getLast? ≠ some '\r' := by
  obtain ⟨-, rfl⟩ := h
  rw [List.getLast?_concat]
  decide

theorem identifiers_nil : identifiers [] = [] := Pattern.found_of_noneIn (Pattern.noneIn_nil [])

/-- A carriage return is part of no token. -/
theorem identifiers_return (t : Text) : identifiers (t ++ ['\r']) = identifiers t :=
  Pattern.found_append_singleton recognises_pattern (fun _ _ => getLast?_ne_of_tokenSource) t

theorem text_substitute_return (t : Text) :
    (substitute ctx dates (t ++ ['\r'])).value.1 = (substitute ctx dates t).value.1 ++ ['\r'] := by
  rw [value_substitute, value_substitute,
    Pattern.pieces_append_singleton recognises_pattern fun _ _ => getLast?_ne_of_tokenSource]
  exact Pattern.flatMap_snocVerbatim (fun _ => rfl) '\r' _

/-- The mark of a text is told by its identifiers. -/
theorem mark_substitute_return (t : Text) :
    (substitute ctx dates (t ++ ['\r'])).value.2 = (substitute ctx dates t).value.2 := by
  rw [markedBy_substitute, identifiers_return, ← markedBy_substitute]

theorem returnBehind_shown {fs fs' : List Fragment} (h : Fragment.ReturnBehind fs fs') :
    Fragment.ReturnBehind (fs.map (Fragment.shown ctx dates))
      (fs'.map (Fragment.shown ctx dates)) := by
  have hraw (t : Text) : Fragment.shown ctx dates (.raw (t ++ ['\r']))
      = .raw ((substitute ctx dates t).value.1 ++ ['\r']) :=
    congrArg Fragment.raw (text_substitute_return ctx dates t)
  cases h with
  | joined earlier t =>
    rw [List.map_append, List.map_append, List.map_singleton, List.map_singleton, hraw]
    exact .joined _ _
  | apart fs =>
    have hsingle : Fragment.shown ctx dates (.raw ['\r']) = .raw ['\r'] := hraw []
    rw [List.map_append, List.map_singleton, hsingle]
    exact .apart _

theorem mergeMarks_return {fs fs' : List Fragment} (h : Fragment.ReturnBehind fs fs')
    (current : Option CompletionMark) :
    mergeMarks current (fs'.map fun f => (substitute ctx dates f.text).value.2)
      = mergeMarks current (fs.map fun f => (substitute ctx dates f.text).value.2) := by
  cases h with
  | joined earlier t =>
    simp only [List.map_append, List.map_singleton, Fragment.text, mark_substitute_return]
  | apart fs =>
    have hsingle : (substitute ctx dates ['\r']).value.2 = none :=
      mark_substitute_return ctx dates []
    rw [List.map_append, List.map_singleton, Fragment.text, hsingle, mergeMarks, List.foldl_append]
    rfl

/-- A carriage return stays behind a line while the tokens in the line are replaced, and nothing
else is asked. -/
theorem substituteLine_return {l l' : Line} (h : l.ReturnBehind l') :
    (substituteLine ctx dates l).value.ReturnBehind (substituteLine ctx dates l').value
      ∧ (substituteLine ctx dates l').calls = (substituteLine ctx dates l).calls := by
  constructor
  · cases h with
    | headerRow h =>
      rw [value_substituteLine_headerRow, value_substituteLine_headerRow]
      exact .headerRow (returnBehind_shown ctx dates h)
    | groupRow h =>
      rw [value_substituteLine_groupRow, value_substituteLine_groupRow]
      exact .groupRow (returnBehind_shown ctx dates h)
    | sectionRow h =>
      rw [value_substituteLine_sectionRow, value_substituteLine_sectionRow,
        mergeMarks_return ctx dates h]
      exact .sectionRow (returnBehind_shown ctx dates h)
    | plain t =>
      have hplain (u : Text) : (substituteLine ctx dates (.plain u)).value
          = .plain (substitute ctx dates u).value.1 := rfl
      rw [hplain, hplain, text_substitute_return]
      exact .plain _
  · rw [calls_substituteLine, calls_substituteLine]
    refine h.flatMap_texts rfl fun t => ?_
    rw [calls_substitute, identifiers_return, ← calls_substitute]

end Token

/-! ## Writing -/

namespace Html

/-- Writes a row with a carriage return before the tag that closes it. -/
def rowReturned (style : RowStyle) (fs : List Fragment) : Text :=
  style.openTag ++ (fs.map fragment).flatten ++ '\r' :: rowClose

/-- Writes a line with a carriage return behind it: before the tag that closes a row, and behind
plain text. A row that is left out is an empty text. -/
def lineReturned (preview : Bool) : Line → Text
  | .headerRow fs | .groupRow fs => rowReturned .normal fs
  | .sectionRow r => match sectionStyle? preview r.status r.completion with
    | some style => rowReturned style r.fragments
    | none => []
  | .plain t => t ++ ['\r']

theorem row_return {fs fs' : List Fragment} (h : Fragment.ReturnBehind fs fs') (style : RowStyle) :
    row style fs' = rowReturned style fs := by
  have hfragments : (fs'.map fragment).flatten = (fs.map fragment).flatten ++ ['\r'] := by
    cases h with
    | joined earlier t => simp [fragment]
    | apart fs => simp [fragment]
  rw [row, hfragments, rowReturned]
  simp only [List.append_assoc, List.cons_append, List.nil_append]

theorem line_return {l l' : Line} (h : l.ReturnBehind l') (preview : Bool) :
    line preview l' = lineReturned preview l := by
  cases h with
  | headerRow h => exact row_return h .normal
  | groupRow h => exact row_return h .normal
  | @sectionRow row fs' h =>
    rw [line, lineReturned]
    cases sectionStyle? preview row.status row.completion with
    | none => rfl
    | some style => exact row_return h style
  | plain t => rfl

end Html

/-! ## A document with carriage returns -/

/-- The questions of a document do not depend on how its lines end. -/
theorem calls_renderTable_crlf (content : Text) :
    (renderTable ctx dates (crlf content)).calls = (renderTable ctx dates content).calls := by
  obtain ⟨earlier, last, hlines, hreturned⟩ := exists_lines_crlf content
  have hread : (fun l => (lineRead ctx (l ++ ['\r'])).calls) = fun l => (lineRead ctx l).calls :=
    funext fun l => (lineRead_return ctx l).2
  have hsubstitute : (fun l => (Token.substituteLine ctx dates
      (lineRead ctx (l ++ ['\r'])).value).calls)
      = fun l => (Token.substituteLine ctx dates (lineRead ctx l).value).calls :=
    funext fun l => (Token.substituteLine_return ctx dates (lineRead_return ctx l).1).2
  simp only [calls_renderTable, hlines, hreturned, List.flatMap_append, List.flatMap_map, hread,
    hsubstitute]

theorem shownLine_return (l : Text) : shownLine ctx dates (l ++ ['\r'])
    = Html.lineReturned ctx.preview (Token.substituteLine ctx dates (lineRead ctx l).value).value :=
  Html.line_return (Token.substituteLine_return ctx dates (lineRead_return ctx l).1).1 ctx.preview

/-- A document whose lines end with a carriage return and a line feed asks the questions of the
document with line feeds, in the same order. Its last line is read alike, and every other one as
that line with a carriage return behind it. In the table the carriage return stands behind a plain
line and before the tag that closes a row, and with a row that is left out it is left out. -/
theorem renderTable_crlf (content : Text) :
    let read (t : Text) : List Line := (Document.read ctx.backend ctx.course t).value
    let shown (l : Line) : Line := (Token.substituteLine ctx dates l).value
    (renderTable ctx dates (crlf content)).calls = (renderTable ctx dates content).calls
    ∧ ∃ earlier earlier' last, (lines content).length = earlier.length + 1
      ∧ read content = earlier ++ [last]
      ∧ read (crlf content) = earlier' ++ [last]
      ∧ List.Forall₂ Line.ReturnBehind earlier earlier'
      ∧ earlier'.map Line.identifiers = earlier.map Line.identifiers
      ∧ (renderTable ctx dates content).value
        = Html.tableOpen
          ++ ofLines (earlier.map (fun l => Html.line ctx.preview (shown l))
            ++ [Html.line ctx.preview (shown last)])
          ++ Html.tableClose
      ∧ (renderTable ctx dates (crlf content)).value
        = Html.tableOpen
          ++ ofLines (earlier.map (fun l => Html.lineReturned ctx.preview (shown l))
            ++ [Html.line ctx.preview (shown last)])
          ++ Html.tableClose := by
  intro read shown
  obtain ⟨earlier, last, hlines, hreturned⟩ := exists_lines_crlf content
  let ls := earlier.map fun l => (lineRead ctx l).value
  let ls' := earlier.map fun l => (lineRead ctx (l ++ ['\r'])).value
  have hlength : (lines content).length = ls.length + 1 := by
    rw [hlines, List.length_append, List.length_map, List.length_singleton]
  have hread : read content = ls ++ [(lineRead ctx last).value] := by
    simp only [read, ls, value_read, hlines, List.map_append, List.map_singleton]
  have hread' : read (crlf content) = ls' ++ [(lineRead ctx last).value] := by
    simp only [read, ls', value_read, hreturned, List.map_append, List.map_singleton, List.map_map]
    rfl
  have hbehind : List.Forall₂ Line.ReturnBehind ls ls' := by
    rw [List.forall₂_map_left_iff, List.forall₂_map_right_iff, List.forall₂_same]
    exact fun l _ => (lineRead_return ctx l).1
  have hidentifiers : ls'.map Line.identifiers = ls.map Line.identifiers := by
    rw [List.map_map, List.map_map]
    refine List.map_congr_left fun l _ => ?_
    exact (lineRead_return ctx l).1.flatMap_texts Token.identifiers_nil Token.identifiers_return
  refine ⟨calls_renderTable_crlf ctx dates content, ls, ls', (lineRead ctx last).value, hlength,
    hread, hread', hbehind, hidentifiers, ?_, ?_⟩
  · rw [value_renderTable, hlines, List.map_append, List.map_singleton, List.map_map]
    rfl
  · have hshown : shownLine ctx dates ∘ (fun l => l ++ ['\r'])
        = (fun l => Html.lineReturned ctx.preview (shown l)) ∘ fun l => (lineRead ctx l).value :=
      funext (shownLine_return ctx dates)
    rw [value_renderTable, hreturned, List.map_append, List.map_singleton, List.map_map,
      List.map_map, hshown]
    rfl

end ProgressTable
