import ProgressTable.Text.Basic

/-!
# Doubling separators

Authors write one separator between two cells; the cells themselves are written with a separator
on both sides. Before anything else, a single separator between two cells is doubled: `^:` behind
a character, which it overwrites, and `|` between two characters of one line, which it overwrites
both. Neither pass reaches across a line feed.
-/

namespace ProgressTable.Separator

/-- Overwrites the character before each `^:` by `^`, from left to right. -/
def doubleCarets : Text → Text
  | a :: '^' :: ':' :: r =>
    if a = '\n' then a :: doubleCarets ('^' :: ':' :: r)
    else '^' :: '^' :: ':' :: doubleCarets r
  | a :: r => a :: doubleCarets r
  | [] => []
termination_by t => t.length

/-- Overwrites the characters on both sides of each `|` inside a line so that two bars remain,
from left to right. A bar at the end of a line stays single, also before a carriage return. -/
def doubleBars : Text → Text
  | a :: '|' :: b :: r =>
    if a = '\n' ∨ b = '\n' ∨ b = '\r' then a :: doubleBars ('|' :: b :: r)
    else '|' :: '|' :: doubleBars r
  | a :: r => a :: doubleBars r
  | [] => []
termination_by t => t.length

/-- Doubles the separators of a whole text, first the carets and then the bars. -/
def double (t : Text) : Text := doubleBars (doubleCarets t)

end ProgressTable.Separator
