/-!
# Text

Every rule of the table markup looks at one character and its neighbours, so text is a list of
characters here and each rule is a recursion on it. This file holds the operations that know
nothing about markup: splitting at line feeds, and asking whether a word occurs.
-/

namespace ProgressTable

/-- Text is a list of characters. -/
abbrev Text := List Char

namespace Text

/-- The pieces between line feeds; text without a line feed is one piece. -/
def lines : Text → List Text
  | [] => [[]]
  | c :: r =>
    if c = '\n' then [] :: lines r
    else match lines r with
      | [] => [[c]]
      | l :: ls => (c :: l) :: ls

/-- The pieces written one after the other with a line feed between two of them. -/
def ofLines (ls : List Text) : Text := List.intercalate ['\n'] ls

/-- Whether `word` stands somewhere in the text. -/
def occurs (word : Text) : Text → Bool
  | [] => word.isEmpty
  | c :: r => word.isPrefixOf (c :: r) || occurs word r

/-- Puts text between two apostrophes, as messages show what an author wrote. -/
def inApostrophes (t : Text) : Text := '\'' :: t ++ ['\'']

/-- What is left behind a word at the start of a text is no longer than the text. -/
theorem length_le_of_isPrefixOf? {word t rest : Text} (h : word.isPrefixOf? t = some rest) :
    rest.length ≤ t.length := by
  induction word generalizing t with
  | nil => exact Nat.le_of_eq (congrArg List.length (Option.some.inj h).symm)
  | cons a word ih =>
    cases t with
    | nil => cases h
    | cons b t =>
      change (if a == b then word.isPrefixOf? t else none) = some rest at h
      split at h
      · exact Nat.le_succ_of_le (ih h)
      · cases h

/-! ## Lines -/

/-- Text has at least one line. -/
theorem lines_ne_nil (t : Text) : lines t ≠ [] := by
  cases t with
  | nil => simp [lines]
  | cons c r =>
    rw [lines]
    split
    · simp
    · split <;> simp

/-- Writing the lines of a text one after the other gives the text. -/
theorem ofLines_lines (t : Text) : ofLines (lines t) = t := by
  induction t with
  | nil => rfl
  | cons c r ih =>
    rw [lines]
    cases h : lines r with
    | nil => exact absurd h (lines_ne_nil r)
    | cons l ls =>
      rw [h] at ih
      by_cases hc : c = '\n'
      · subst hc
        simp only [if_true]
        rw [← ih]
        simp [ofLines, List.intercalate, List.intersperse]
      · simp only [hc, if_false]
        rw [← ih]
        cases ls <;> simp [ofLines, List.intercalate, List.intersperse]

end Text
end ProgressTable
