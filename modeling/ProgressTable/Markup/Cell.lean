import ProgressTable.Markup.Line
import ProgressTable.Text.DecimalDigit
import ProgressTable.Text.Numeral
import ProgressTable.Text.Pattern

/-!
# Cells

Each kind of row has its own cells: `^:W:text^` in a header row, `#text#` in a group row and
`|text|` in the row of a section. A row is cut into fragments by the pattern of its cells; what
stands between two cells is raw text.
-/

namespace ProgressTable.Cell

open Text

/-! ## The three patterns -/

/-- The text behind an optional colon. -/
def skipColon : Text → Text
  | ':' :: r => r
  | t => t

private theorem skipColon_length (t : Text) : (skipColon t).length ≤ t.length := by
  unfold skipColon
  split <;> simp

/-- A header cell: a caret, an optional colon, digits, a colon, the text and a caret. A number
that is no width leaves the cell as raw text. -/
def header? : Text → Option (Fragment × Text)
  | '^' :: r =>
    let number := skipColon r
    let digits := number.takeWhile isDecimalDigit
    if digits.isEmpty then none
    else match number.dropWhile isDecimalDigit with
      | ':' :: body => match delimited? '^' ('^' :: body) with
        | some (inner, rest) => some (match Numeral.readUInt32? digits with
          | some width => (.headerCell width inner, rest)
          | none => (.raw ('^' :: r.take (r.length - rest.length)), rest))
        | none => none
      | _ => none
  | _ => none

/-- A group cell: text between two hash signs. -/
def group? (t : Text) : Option (Fragment × Text) :=
  (delimited? '#' t).map fun (inner, rest) => (.groupCell inner, rest)

/-- A section cell: text between two bars. -/
def section? (t : Text) : Option (Fragment × Text) :=
  (delimited? '|' t).map fun (inner, rest) => (.sectionCell inner, rest)

/-- The pattern of header cells. -/
def headerPattern : Pattern Fragment where
  match? := header?
  shorter t f rest h := by
    unfold header? at h
    split at h
    · rename_i r
      simp only at h
      split at h
      · simp at h
      · split at h
        · rename_i body hb
          split at h
          · rename_i inner rest' hd
            have h1 := delimited?_shorter _ _ _ _ hd
            have h2 : rest' = rest := by
              simp only [Option.some.injEq] at h
              split at h <;> exact (Prod.mk.inj h).2
            have h3 := (List.dropWhile_sublist (l := skipColon r) isDecimalDigit).length_le
            have h4 := skipColon_length r
            rw [hb] at h3
            subst h2
            simp only [List.length_cons] at h1 h3 ⊢
            omega
          · simp at h
        · simp at h
    · simp at h

/-- The pattern of group cells. -/
def groupPattern : Pattern Fragment where
  match? := group?
  shorter t f rest h := by
    obtain ⟨⟨inner, r⟩, hd, he⟩ := Option.map_eq_some_iff.1 h
    obtain ⟨-, rfl⟩ := Prod.mk.inj he
    exact delimited?_shorter _ _ _ _ hd

/-- The pattern of section cells. -/
def sectionPattern : Pattern Fragment where
  match? := section?
  shorter t f rest h := by
    obtain ⟨⟨inner, r⟩, hd, he⟩ := Option.map_eq_some_iff.1 h
    obtain ⟨-, rfl⟩ := Prod.mk.inj he
    exact delimited?_shorter _ _ _ _ hd

/-! ## Cutting a row -/

/-- The fragment that a piece of a row is. -/
def ofPiece : Piece Fragment → Fragment
  | .verbatim t => .raw t
  | .found f => f

/-- The cells of a row and the text between them, in order. -/
def fragments (cells : Pattern Fragment) (line : Text) : List Fragment :=
  (cells.pieces line).map ofPiece

end ProgressTable.Cell
