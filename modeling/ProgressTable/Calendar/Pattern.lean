import ProgressTable.Text.Basic

/-!
# Date patterns

A date pattern is text in which a percent sign and a letter stand for a part of a date, as in
`%d/%m/%y`. Reading a pattern gives the items to print, or nothing when some specifier is unknown
or incomplete. Between the percent sign and the letter of a number a mark may change how the number
is filled up: `-` not at all, `_` by blanks, `0` by zeros.
-/

namespace ProgressTable.DatePattern

/-- How a number is filled up to its least width. -/
inductive Pad where
  | none | zero | blank
deriving Repr, DecidableEq

/-- A number in a date. -/
inductive Field where
  | year | century | yearOfCentury
  | isoYear | isoYearOfCentury | isoWeek
  | quarter | month | day | ordinal
  | weekFromSunday | weekFromMonday
  | weekdayFromSunday | weekdayFromMonday
  | hour | hour12 | minute | second | nanosecond
  | epochSeconds
deriving Repr, DecidableEq

/-- How an offset from UTC is written. -/
inductive OffsetStyle where
  /-- As in `+0130`. -/
  | plain
  /-- As in `+01:30`. -/
  | colon
  /-- As in `+01:30:00`. -/
  | seconds
  /-- As in `+01`. -/
  | hours
deriving Repr, DecidableEq

/-- A part of a pattern. -/
inductive Item where
  | literal (c : Char)
  | number (field : Field) (pad : Pad)
  | shortMonth | longMonth
  | shortWeekday | longWeekday
  | lowerHalfDay | upperHalfDay
  /-- The fraction of a second to `digits` places, behind a point; whole seconds without a fixed
  number of places have none. -/
  | fraction (digits : Option Nat)
  /-- The fraction of a second to `digits` places, without a point. -/
  | fractionDigits (digits : Nat)
  | offset (style : OffsetStyle)
  /-- The date, the time and the offset in one, as in `2021-03-04T05:06:00+00:00`. -/
  | timestamp
  /-- An offset that can be read in several forms and is never printed. -/
  | unprintable
deriving Repr, DecidableEq

/-! ## Specifiers -/

private def zeros (f : Field) : Item := .number f .zero
private def blanks (f : Field) : Item := .number f .blank
private def literal (c : Char) : Item := .literal c

/-- Hours, minutes and seconds with colons between them. -/
def clock : List Item :=
  [zeros .hour, literal ':', zeros .minute, literal ':', zeros .second]

/-- Month, day and short year with strokes between them. -/
def monthDayYear : List Item :=
  [zeros .month, literal '/', zeros .day, literal '/', zeros .yearOfCentury]

/-- The spellings that may follow a percent sign, and the items they stand for. No spelling begins
with another one. -/
def specifiers : List (Text × List Item) :=
  [ (['A'], [.longWeekday]),
    (['B'], [.longMonth]),
    (['C'], [zeros .century]),
    (['D'], monthDayYear),
    (['F'], [zeros .year, literal '-', zeros .month, literal '-', zeros .day]),
    (['G'], [zeros .isoYear]),
    (['H'], [zeros .hour]),
    (['I'], [zeros .hour12]),
    (['M'], [zeros .minute]),
    (['P'], [.lowerHalfDay]),
    (['R'], [zeros .hour, literal ':', zeros .minute]),
    (['S'], [zeros .second]),
    (['T'], clock),
    (['U'], [zeros .weekFromSunday]),
    (['V'], [zeros .isoWeek]),
    (['W'], [zeros .weekFromMonday]),
    (['X'], clock),
    (['Y'], [zeros .year]),
    (['Z'], [.offset .colon]),
    (['a'], [.shortWeekday]),
    (['b'], [.shortMonth]),
    (['c'], [.shortWeekday, literal ' ', .shortMonth, literal ' ', blanks .day, literal ' ']
      ++ clock ++ [literal ' ', zeros .year]),
    (['d'], [zeros .day]),
    (['e'], [blanks .day]),
    (['f'], [zeros .nanosecond]),
    (['g'], [zeros .isoYearOfCentury]),
    (['h'], [.shortMonth]),
    (['j'], [zeros .ordinal]),
    (['k'], [blanks .hour]),
    (['l'], [blanks .hour12]),
    (['m'], [zeros .month]),
    (['n'], [literal '\n']),
    (['p'], [.upperHalfDay]),
    (['q'], [.number .quarter .none]),
    (['r'], [zeros .hour12, literal ':', zeros .minute, literal ':', zeros .second,
      literal ' ', .upperHalfDay]),
    (['s'], [.number .epochSeconds .none]),
    (['t'], [literal '\t']),
    (['u'], [.number .weekdayFromMonday .none]),
    (['v'], [blanks .day, literal '-', .shortMonth, literal '-', zeros .year]),
    (['w'], [.number .weekdayFromSunday .none]),
    (['x'], monthDayYear),
    (['y'], [zeros .yearOfCentury]),
    (['z'], [.offset .plain]),
    ([':', 'z'], [.offset .colon]),
    ([':', ':', 'z'], [.offset .seconds]),
    ([':', ':', ':', 'z'], [.offset .hours]),
    (['+'], [.timestamp]),
    (['.', 'f'], [.fraction none]),
    (['.', '3', 'f'], [.fraction (some 3)]),
    (['.', '6', 'f'], [.fraction (some 6)]),
    (['.', '9', 'f'], [.fraction (some 9)]),
    (['3', 'f'], [.fractionDigits 3]),
    (['6', 'f'], [.fractionDigits 6]),
    (['9', 'f'], [.fractionDigits 9]),
    (['#', 'z'], [.unprintable]),
    (['%'], [literal '%']) ]

/-- The specifier at the start of a text, and the text behind it. -/
def specifier? (t : Text) : Option (List Item × Text) :=
  specifiers.findSome? fun (spelling, items) =>
    (spelling.isPrefixOf? t).map fun rest => (items, rest)

/-- The padding that a mark asks for. -/
def padMark? : Char → Option Pad
  | '-' => some .none
  | '_' => some .blank
  | '0' => some .zero
  | _ => none

/-- What follows a percent sign, and the text behind it. Only a specifier that is a single number
takes a padding mark. -/
def directive? : Text → Option (List Item × Text)
  | [] => none
  | c :: r => match padMark? c with
    | none => specifier? (c :: r)
    | some pad => match specifier? r with
      | some ([.number f _], rest) => some ([.number f pad], rest)
      | _ => none

theorem specifier?_length (t : Text) (items : List Item) (rest : Text)
    (h : specifier? t = some (items, rest)) : rest.length ≤ t.length := by
  obtain ⟨⟨spelling, its⟩, -, he⟩ := List.exists_of_findSome?_eq_some h
  obtain ⟨r, hr, hp⟩ := Option.map_eq_some_iff.1 he
  obtain ⟨-, rfl⟩ := Prod.mk.inj hp
  exact Text.length_le_of_isPrefixOf? hr

theorem directive?_length (t : Text) (items : List Item) (rest : Text)
    (h : directive? t = some (items, rest)) : rest.length ≤ t.length := by
  match t with
  | [] => simp [directive?] at h
  | c :: r =>
    simp only [directive?] at h
    split at h
    · exact specifier?_length _ _ _ h
    · split at h
      · next hs =>
        obtain ⟨-, rfl⟩ := Prod.mk.inj (Option.some.inj h)
        exact Nat.le_succ_of_le (specifier?_length _ _ _ hs)
      · simp at h

/-! ## Reading a pattern -/

/-- The items of a pattern, or nothing when it holds a specifier that is unknown or cut off. -/
def read? : Text → Option (List Item)
  | [] => some []
  | '%' :: r => match _h : directive? r with
    | some (items, rest) => (read? rest).map (items ++ ·)
    | none => none
  | c :: r => (read? r).map (.literal c :: ·)
termination_by t => t.length
decreasing_by
  · exact Nat.lt_succ_of_le (directive?_length _ _ _ _h)
  · simp

end ProgressTable.DatePattern
