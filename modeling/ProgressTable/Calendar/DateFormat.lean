import ProgressTable.Calendar.Civil
import ProgressTable.Calendar.Pattern
import ProgressTable.Journal

/-!
# Printing dates

A date format is a pattern together with an offset from UTC. A timestamp is shifted by the offset
and printed by the items of the pattern; the names are English. A timestamp beyond the calendar,
or a pattern with an item that cannot be printed, leaves the timestamp as a plain number.
-/

namespace ProgressTable

/-! ## Offsets -/

/-- An offset from UTC: seconds to the east, less than a day of them in either direction. -/
structure UtcOffset where
  seconds : Int32
  lt_day : -86400 < seconds ∧ seconds < 86400
deriving Repr, DecidableEq

namespace UtcOffset

/-- No offset at all. -/
def utc : UtcOffset := ⟨0, by decide⟩

/-- The offset of so many seconds, unless they are a day or more. -/
def east? (seconds : Int32) : Option UtcOffset :=
  if h : -86400 < seconds ∧ seconds < 86400 then some ⟨seconds, h⟩ else none

/-- The offset of so many minutes, unless their seconds do not fit a word or are a day or more. -/
def ofMinutes? (minutes : Int32) : Option UtcOffset := (Word.mul32? minutes 60).bind east?

end UtcOffset

namespace DatePattern

/-! ## Numbers -/

/-- A number of at most two digits, filled up to two. Its tens are written by the character that
many places behind the digit zero, so a number is always two characters wide. -/
def twoDigits (pad : Pad) (n : Nat) : Text :=
  match n / 10, pad with
  | 0, .none => [Numeral.digit n]
  | 0, .blank => [' ', Numeral.digit n]
  | _, _ => [Char.ofNat ('0'.toNat + n / 10), Numeral.digit (n % 10)]

/-- A signed number filled up to `width` characters, its sign among them. A plus sign is written
only where `plus` asks for it. -/
def signed (pad : Pad) (width : Nat) (plus : Bool) (n : Int) : Text :=
  let sign : Text := if n < 0 then ['-'] else if plus then ['+'] else []
  let digits := Numeral.ofNat n.natAbs
  let missing := width - (sign.length + digits.length)
  match pad with
  | .none => sign ++ digits
  | .zero => sign ++ List.replicate missing '0' ++ digits
  | .blank => List.replicate missing ' ' ++ sign ++ digits

/-- A year of at least four digits. A year that has not four digits or fewer is given a sign. -/
def yearText (pad : Pad) (y : Int) : Text :=
  if 0 ≤ y ∧ y < 10000 then signed pad 4 false y else signed pad 5 true y

/-- A number in a date, given the wall-clock time and the seconds since 1970. -/
def Field.text (pad : Pad) (t : CivilTime) (epoch : Int) : Field → Text
  | .year => yearText pad t.date.year
  | .century => twoDigits pad (t.date.year / 100 % 256).toNat
  | .yearOfCentury => twoDigits pad (t.date.year % 100).toNat
  | .isoYear => yearText pad (isoWeekOf t.days).1
  | .isoYearOfCentury => twoDigits pad ((isoWeekOf t.days).1 % 100).toNat
  | .isoWeek => twoDigits pad (isoWeekOf t.days).2
  | .quarter => [Numeral.digit t.date.quarter]
  | .month => twoDigits pad t.date.month
  | .day => twoDigits pad t.date.day
  | .ordinal => signed pad 3 false t.date.ordinal
  | .weekFromSunday => twoDigits pad ((t.date.ordinal + 6 - daysSinceSunday t.days) / 7)
  | .weekFromMonday => twoDigits pad ((t.date.ordinal + 6 - daysSinceMonday t.days) / 7)
  | .weekdayFromSunday => [Numeral.digit (daysSinceSunday t.days)]
  | .weekdayFromMonday => [Numeral.digit (daysSinceMonday t.days + 1)]
  | .hour => twoDigits pad t.hour
  | .hour12 => twoDigits pad t.hour12
  | .minute => twoDigits pad t.minute
  | .second => twoDigits pad t.second
  | .nanosecond => signed pad 9 false 0
  | .epochSeconds => signed pad 9 false epoch

/-! ## Names -/

/-- The names of the months. -/
def monthNames : List Text :=
  ["January".toList, "February".toList, "March".toList, "April".toList, "May".toList,
    "June".toList, "July".toList, "August".toList, "September".toList, "October".toList,
    "November".toList, "December".toList]

/-- The names of the days of the week, from Sunday. -/
def weekdayNames : List Text :=
  ["Sunday".toList, "Monday".toList, "Tuesday".toList, "Wednesday".toList, "Thursday".toList,
    "Friday".toList, "Saturday".toList]

/-- The name of the month of a date. -/
def monthName (t : CivilTime) : Text := monthNames.getD (t.date.month - 1) []

/-- The name of the day of the week. -/
def weekdayName (t : CivilTime) : Text := weekdayNames.getD (daysSinceSunday t.days) []

/-! ## Printed offsets -/

/-- An offset with its sign. Without a place for the seconds it is rounded to minutes, without one
for the minutes it is cut to hours. -/
def OffsetStyle.text (style : OffsetStyle) (offset : UtcOffset) : Text :=
  let sign := if offset.seconds < 0 then '-' else '+'
  let size := offset.seconds.toInt.natAbs
  let minutes := (size + 30) / 60
  match style with
  | .plain => sign :: twoDigits .zero (minutes / 60) ++ twoDigits .zero (minutes % 60)
  | .colon => sign :: twoDigits .zero (minutes / 60) ++ ':' :: twoDigits .zero (minutes % 60)
  | .seconds => sign :: twoDigits .zero (size / 3600) ++ ':' :: twoDigits .zero (size / 60 % 60)
    ++ ':' :: twoDigits .zero (size % 60)
  | .hours => sign :: twoDigits .zero (size / 3600)

/-! ## Items -/

/-- The date, the time and the offset in one. -/
def timestampText (t : CivilTime) (offset : UtcOffset) : Text :=
  yearText .zero t.date.year ++ '-' :: twoDigits .zero t.date.month
    ++ '-' :: twoDigits .zero t.date.day ++ 'T' :: twoDigits .zero t.hour
    ++ ':' :: twoDigits .zero t.minute ++ ':' :: twoDigits .zero t.second
    ++ OffsetStyle.text .colon offset

/-- Prints an item, if it can be printed. Timestamps are whole seconds, so a fraction is zero. -/
def Item.text? (t : CivilTime) (epoch : Int) (offset : UtcOffset) : Item → Option Text
  | .literal c => some [c]
  | .number f pad => some (f.text pad t epoch)
  | .shortMonth => some ((monthName t).take 3)
  | .longMonth => some (monthName t)
  | .shortWeekday => some ((weekdayName t).take 3)
  | .longWeekday => some (weekdayName t)
  | .lowerHalfDay => some (if t.afterNoon then "pm".toList else "am".toList)
  | .upperHalfDay => some (if t.afterNoon then "PM".toList else "AM".toList)
  | .fraction none => some []
  | .fraction (some n) => some ('.' :: List.replicate n '0')
  | .fractionDigits n => some (List.replicate n '0')
  | .offset style => some (style.text offset)
  | .timestamp => some (timestampText t offset)
  | .unprintable => none

end DatePattern

open DatePattern

/-- A pattern and an offset from UTC. -/
structure DateFormat where
  /-- The pattern as its author wrote it. -/
  pattern : Text
  /-- The items of the pattern. -/
  items : List Item
  offset : UtcOffset
deriving Repr, DecidableEq

namespace DateFormat

/-- The part of the program that speaks when a format is set up. -/
def logTarget : Text := "completion_table::daterange".toList

/-- The pattern used where none, or none that can be read, is given. -/
def defaultPattern : Text := "%d/%m/%y, %H:%M".toList

/-- The items of the default pattern. -/
def defaultItems : List Item :=
  [.number .day .zero, .literal '/', .number .month .zero, .literal '/',
    .number .yearOfCentury .zero, .literal ',', .literal ' ', .number .hour .zero,
    .literal ':', .number .minute .zero]

/-- Sets a format up. A pattern that cannot be read gives way to the default one, and minutes that
are no offset to UTC, each with a warning. -/
def create (pattern : Text) (minutes : Int32) : Journaled DateFormat := do
  let (pattern', items) ← match read? pattern with
    | some items => pure (pattern, items)
    | none => do
      Journaled.log .warn logTarget
        ("Invalid date format ".toList ++ Text.inApostrophes pattern ++ ", using ".toList
          ++ Text.inApostrophes defaultPattern)
      pure (defaultPattern, defaultItems)
  let offset ← match UtcOffset.ofMinutes? minutes with
    | some offset => pure offset
    | none => do
      Journaled.log .warn logTarget
        ("Invalid UTC offset ".toList ++ Numeral.ofInt minutes.toInt
          ++ " minutes, using UTC".toList)
      pure .utc
  pure { pattern := pattern', items, offset }

/-- The default pattern in UTC. -/
def default : DateFormat := { pattern := defaultPattern, items := defaultItems, offset := .utc }

/-- The first second of the calendar. -/
def firstSecond : Int := -8334601228800

/-- The last second of the calendar. -/
def lastSecond : Int := 8210266876799

/-- Prints a timestamp. -/
def format (f : DateFormat) (t : Timestamp) : Text :=
  let epoch := t.toInt
  if firstSecond ≤ epoch ∧ epoch ≤ lastSecond then
    let wallClock : CivilTime := .ofSeconds (epoch + f.offset.seconds.toInt)
    match f.items.mapM (Item.text? wallClock epoch f.offset) with
    | some parts => parts.flatten
    | none => Numeral.ofInt64 t
  else Numeral.ofInt64 t

end DateFormat
end ProgressTable
