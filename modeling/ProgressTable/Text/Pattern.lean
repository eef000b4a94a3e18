import ProgressTable.Text.Basic

/-!
# Patterns and their pieces

A pattern recognises something at the start of a text and says what is left. Cutting a text by a
pattern finds its matches from left to right: a match is taken wherever it starts first, the
search goes on behind it, and the text between two matches is kept as it is. Cells and completion
tokens are both found this way.
-/

namespace ProgressTable.Text

/-- Recognises something at the start of a text, always taking at least one character. -/
structure Pattern (α : Type) where
  /-- What stands at the start of the text, and the text behind it. -/
  match? : Text → Option (α × Text)
  /-- A match takes at least one character. -/
  shorter : ∀ t a rest, match? t = some (a, rest) → rest.length < t.length

/-- A piece of a text cut by a pattern. -/
inductive Piece (α : Type) where
  /-- Text between two matches. -/
  | verbatim (text : Text)
  /-- A match. -/
  | found (value : α)
deriving Repr, DecidableEq

namespace Pattern

variable {α : Type}

/-- Puts a character in front of the pieces, joining it to verbatim text that comes first. -/
def consVerbatim (c : Char) : List (Piece α) → List (Piece α)
  | .verbatim t :: ps => .verbatim (c :: t) :: ps
  | ps => .verbatim [c] :: ps

/-- Cuts a text at the leftmost matches that do not overlap. -/
def pieces (p : Pattern α) (t : Text) : List (Piece α) :=
  match _h : p.match? t with
  | some (a, rest) => .found a :: p.pieces rest
  | none => match t with
    | [] => []
    | c :: r => consVerbatim c (p.pieces r)
termination_by t.length
decreasing_by
  · exact p.shorter _ _ _ _h
  · exact Nat.lt_succ_self r.length

end Pattern

/-! ## Delimited text -/

/-- Reads `d`, at least one character, and the next `d` behind that character. The first character
between the two may itself be `d`. -/
def delimited? (d : Char) : Text → Option (Text × Text)
  | a :: c :: r =>
    if a = d then
      match r.dropWhile (· ≠ d) with
      | [] => none
      | _ :: rest => some (c :: r.takeWhile (· ≠ d), rest)
    else none
  | _ => none

theorem delimited?_shorter (d : Char) (t inner rest : Text)
    (h : delimited? d t = some (inner, rest)) : rest.length < t.length := by
  match t with
  | [] => simp [delimited?] at h
  | [a] => simp [delimited?] at h
  | a :: c :: r =>
    simp only [delimited?] at h
    split at h
    · split at h
      · simp at h
      · rename_i x r' hr
        obtain ⟨-, rfl⟩ : c :: r.takeWhile (· ≠ d) = inner ∧ r' = rest := by simpa using h
        have := (List.dropWhile_sublist (l := r) (· ≠ d)).length_le
        rw [hr] at this
        simp only [List.length_cons] at this ⊢
        omega
    · simp at h

end ProgressTable.Text
